import ContainerRoster.Container
import ContainerRoster.FileSystem
import ContainerRoster.Warning

/-!
# Runs and their traces

What a run did besides answering: the files it read, the warnings it logged and the requests it
sent, in order. A `Traced` value carries these events beside its result, and `bind` puts the
events of the second part behind those of the first.
-/

namespace ContainerRoster

inductive Event
  | read (path : String)
  | warn (warning : Warning)
  | request (filter : ContainerFilter)
  deriving DecidableEq, Repr

structure Traced (α : Type) where
  events : List Event
  value : α
  deriving DecidableEq, Repr

namespace Traced

variable {α β : Type}

def pure (a : α) : Traced α := ⟨[], a⟩

def bind (x : Traced α) (f : α → Traced β) : Traced β :=
  ⟨x.events ++ (f x.value).events, (f x.value).value⟩

instance : Monad Traced where
  pure := pure
  bind := bind

@[simp] theorem events_pure (a : α) : (Pure.pure a : Traced α).events = [] := rfl

@[simp] theorem value_pure (a : α) : (Pure.pure a : Traced α).value = a := rfl

@[simp] theorem events_bind (x : Traced α) (f : α → Traced β) :
    (x >>= f).events = x.events ++ (f x.value).events := rfl

@[simp] theorem value_bind (x : Traced α) (f : α → Traced β) :
    (x >>= f).value = (f x.value).value := rfl

instance : LawfulMonad Traced := LawfulMonad.mk' _
  (fun x => by show Traced.mk (x.events ++ []) x.value = x; simp)
  (fun a f => by show Traced.mk ([] ++ (f a).events) (f a).value = f a; simp)
  (fun x f g => by show Traced.mk _ _ = Traced.mk _ _; simp [List.append_assoc])

def warn (w : Warning) : Traced Unit := ⟨[.warn w], ()⟩

/-- Read a file and leave a trace of it. -/
def read (files : FileSystem) (path : String) : Traced (Except IoError (List UInt8)) :=
  ⟨[.read path], files.read path⟩

/-- Read a file of text and leave a trace of it. -/
def readText (files : FileSystem) (path : String) : Traced (Except IoError (List Char)) :=
  ⟨[.read path], files.readText path⟩

/-- Send a request and leave a trace of it. -/
def request (runtime : Runtime) (filter : ContainerFilter) :
    Traced (Except Status (List Container)) :=
  ⟨[.request filter], runtime.answer filter⟩

/-- The warnings of a run, in order. -/
def warnings (x : Traced α) : List Warning :=
  x.events.filterMap fun
    | .warn w => some w
    | _ => none

/-- The requests of a run, in order. -/
def requests (x : Traced α) : List ContainerFilter :=
  x.events.filterMap fun
    | .request filter => some filter
    | _ => none

/-- The paths a run read, in order. -/
def reads (x : Traced α) : List String :=
  x.events.filterMap fun
    | .read path => some path
    | _ => none

/-! ## What each step leaves behind -/

@[simp] theorem warnings_pure (a : α) : (Pure.pure a : Traced α).warnings = [] := rfl

@[simp] theorem requests_pure (a : α) : (Pure.pure a : Traced α).requests = [] := rfl

@[simp] theorem reads_pure (a : α) : (Pure.pure a : Traced α).reads = [] := rfl

@[simp] theorem warnings_bind (x : Traced α) (f : α → Traced β) :
    (x >>= f).warnings = x.warnings ++ (f x.value).warnings :=
  List.filterMap_append

@[simp] theorem requests_bind (x : Traced α) (f : α → Traced β) :
    (x >>= f).requests = x.requests ++ (f x.value).requests :=
  List.filterMap_append

@[simp] theorem reads_bind (x : Traced α) (f : α → Traced β) :
    (x >>= f).reads = x.reads ++ (f x.value).reads :=
  List.filterMap_append

@[simp] theorem warnings_warn (w : Warning) : (warn w).warnings = [w] := rfl

@[simp] theorem requests_warn (w : Warning) : (warn w).requests = [] := rfl

@[simp] theorem reads_warn (w : Warning) : (warn w).reads = [] := rfl

@[simp] theorem warnings_read (files : FileSystem) (path : String) :
    (read files path).warnings = [] := rfl

@[simp] theorem requests_read (files : FileSystem) (path : String) :
    (read files path).requests = [] := rfl

@[simp] theorem reads_read (files : FileSystem) (path : String) :
    (read files path).reads = [path] := rfl

@[simp] theorem warnings_readText (files : FileSystem) (path : String) :
    (readText files path).warnings = [] := rfl

@[simp] theorem requests_readText (files : FileSystem) (path : String) :
    (readText files path).requests = [] := rfl

@[simp] theorem reads_readText (files : FileSystem) (path : String) :
    (readText files path).reads = [path] := rfl

@[simp] theorem warnings_request (runtime : Runtime) (filter : ContainerFilter) :
    (request runtime filter).warnings = [] := rfl

@[simp] theorem requests_request (runtime : Runtime) (filter : ContainerFilter) :
    (request runtime filter).requests = [filter] := rfl

@[simp] theorem reads_request (runtime : Runtime) (filter : ContainerFilter) :
    (request runtime filter).reads = [] := rfl

end Traced

end ContainerRoster
