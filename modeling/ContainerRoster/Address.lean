import ContainerRoster.Failure

/-!
# Network addresses

An address is a protocol, a host with an optional port and user, and optionally a path and a
query. Before a connection is tried, its characters and the shape of the host are checked from
left to right.
-/

namespace ContainerRoster.Address

/-- The text after a beginning. -/
def after? (start text : String) : Option String :=
  if start.toList.isPrefixOf text.toList then
    some (String.ofList (text.toList.drop start.toList.length))
  else none

/-- There is text after a beginning exactly when both together are the whole text. -/
theorem after?_eq_some_iff {start text rest : String} :
    after? start text = some rest ↔ text = start ++ rest := by
  unfold after?
  constructor
  · intro h
    split at h
    · next hp =>
      obtain ⟨t, ht⟩ := List.isPrefixOf_iff_prefix.mp hp
      simp only [Option.some.injEq] at h
      subst h
      apply String.toList_injective
      simp [← ht]
    · exact absurd h (by simp)
  · intro h
    subst h
    simp

/-- The characters that end the host. -/
def endsHost (c : Char) : Bool := c == '/' || c == '?' || c == '#'

/-- The characters that may stand in a host, colons, brackets, percent and at signs aside. -/
def isHostChar (c : Char) : Bool :=
  c.isAlphanum ||
    ['!', '$', '&', '\'', '(', ')', '*', '+', ',', '-', '.', ';', '=', '_', '~'].contains c

/-- What has been seen of a host. An at sign or a closing bracket makes the colons and percent
signs before it part of a user or of a bracketed host, and they no longer count. -/
structure Host where
  colons : Nat := 0
  opened : Bool := false
  closed : Bool := false
  hasPercent : Bool := false
  endsInAt : Bool := false

/-- The number of colons that is refused at once. -/
def maxColons : Nat := 8

/-- See one more character of a host. -/
def Host.add (host : Host) (c : Char) : Except EndpointError Host :=
  let host := { host with endsInAt := c == '@' }
  if c = ':' then
    if maxColons ≤ host.colons then .error .invalidAuthority
    else .ok { host with colons := host.colons + 1 }
  else if c = '[' then
    if host.hasPercent || host.opened then .error .invalidAuthority
    else .ok { host with opened := true }
  else if c = ']' then
    if !host.opened || host.closed then .error .invalidAuthority
    else .ok { host with closed := true, colons := 0, hasPercent := false }
  else if c = '@' then .ok { host with colons := 0, hasPercent := false }
  else if c = '%' then .ok { host with hasPercent := true }
  else if isHostChar c then .ok host
  else .error .invalidCharacter

/-- Whether a host is complete and has at most one port. -/
def Host.isSound (host : Host) : Bool :=
  host.opened == host.closed && host.colons ≤ 1 && !host.endsInAt && !host.hasPercent

/-- The characters that may stand in a path. -/
def isPathChar (c : Char) : Bool :=
  let n := c.toNat
  n == 0x21 || n == 0x22 || (0x24 ≤ n && n ≤ 0x3B) || n == 0x3D || (0x40 ≤ n && n ≤ 0x5F) ||
    (0x61 ≤ n && n ≤ 0x7E) || 0x7F ≤ n

/-- The characters that may stand in a query. -/
def isQueryChar (c : Char) : Bool :=
  let n := c.toNat
  n == 0x21 || (0x24 ≤ n && n ≤ 0x3B) || n == 0x3D || 0x3F ≤ n

/-- Check a path and a query. What follows a hash is not looked at. -/
def checkTarget (cs : List Char) : Except EndpointError Unit :=
  let path := cs.takeWhile fun c => c != '?' && c != '#'
  let rest := cs.drop path.length
  let query := if rest.head? == some '?' then (rest.drop 1).takeWhile (· != '#') else []
  if path.all isPathChar && query.all isQueryChar then .ok () else .error .invalidCharacter

/-- Check what follows the protocol. -/
def checkRest (cs : List Char) : Except EndpointError Unit := do
  let authority := cs.takeWhile fun c => !endsHost c
  if cs.isEmpty then throw .emptyAuthority
  let host ← authority.foldlM Host.add {}
  if !host.isSound then throw .invalidAuthority
  if authority.isEmpty then throw .invalidFormat
  checkTarget (cs.drop authority.length)

/-- The length in bytes that no address has. -/
def maxLength : Nat := 65535

/-- Check an address that starts with its protocol. -/
def check (address : String) : Except EndpointError Unit :=
  if maxLength ≤ address.utf8ByteSize then .error .tooLong
  else
    match (after? "http://" address).or (after? "https://" address) with
    | some rest => checkRest rest.toList
    | none => .error .unknownProtocol

/-- What is wrong with an address, if anything is. -/
def problem? (address : String) : Option EndpointError :=
  match check address with
  | .ok () => none
  | .error e => some e

end ContainerRoster.Address
