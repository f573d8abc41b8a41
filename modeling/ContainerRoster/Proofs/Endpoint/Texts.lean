import ContainerRoster.Endpoint
import ContainerRoster.Proofs.Text.Quoted
import Mathlib.Control.Monad.Basic

/-!
# The texts of endpoints

A text names an endpoint in one of five ways, told apart by how it begins.  `parse_eq_ok_iff` and
`parse_eq_error_iff` say which endpoint each text names and why the others name none.  The text of
an endpoint is among those that name it, although it may be another one than it was read from, so
reading and showing it again changes nothing; `texts_stable` puts this together.
-/

namespace ContainerRoster
namespace Endpoint

/-- The texts that name an endpoint. -/
inductive Names : String → Endpoint → Prop
  | socket (path : String) (h : path ≠ "") : Names ("unix://" ++ path) (unix path)
  | path (rest : String) : Names ("/" ++ rest) (unix ("/" ++ rest))
  | network (rest : String) (h : rest ≠ "") : Names ("tcp://" ++ rest) (tcp ("http://" ++ rest))
  | http (rest : String) : Names ("http://" ++ rest) (tcp ("http://" ++ rest))
  | https (rest : String) : Names ("https://" ++ rest) (tcp ("https://" ++ rest))

/-- The texts that name none, and what is wrong with each. -/
inductive NamesNone : String → EndpointError → Prop
  | emptyPath : NamesNone "unix://" .emptyPath
  | emptyAddress : NamesNone "tcp://" .emptyAddress
  | unknownProtocol {text : String}
      (h : ∀ start ∈ ["unix://", "/", "tcp://", "http://", "https://"],
        ∀ rest, text ≠ start ++ rest) : NamesNone text .unknownProtocol

variable {text text' rest : String} {endpoint endpoint' : Endpoint} {failure : Failure}

/-! ## One way at a time -/

theorem parse_unix {path : String} (h : path ≠ "") :
    parse ("unix://" ++ path) = .ok (unix path) := by
  rw [parse, Address.after?_eq_some_iff.mpr rfl]
  dsimp only
  rw [if_neg (by simpa using h)]

theorem parse_absolute (rest : String) : parse ("/" ++ rest) = .ok (unix ("/" ++ rest)) := by
  have hunix : Address.after? "unix://" ("/" ++ rest) = none := by simp [Address.after?]
  rw [parse, hunix]
  dsimp only
  rw [if_pos (by simp)]

theorem parse_tcp (h : rest ≠ "") :
    parse ("tcp://" ++ rest) = .ok (tcp ("http://" ++ rest)) := by
  have hunix : Address.after? "unix://" ("tcp://" ++ rest) = none := by simp [Address.after?]
  rw [parse, hunix, Address.after?_eq_some_iff.mpr rfl]
  dsimp only
  rw [if_neg (by simp), if_neg (by simpa using h)]

theorem parse_http (rest : String) : parse ("http://" ++ rest) = .ok (tcp ("http://" ++ rest)) := by
  have hunix : Address.after? "unix://" ("http://" ++ rest) = none := by simp [Address.after?]
  have htcp : Address.after? "tcp://" ("http://" ++ rest) = none := by simp [Address.after?]
  rw [parse, hunix, htcp, Address.after?_eq_some_iff.mpr rfl]
  dsimp only
  rw [if_neg (by simp)]
  rfl

theorem parse_https (rest : String) :
    parse ("https://" ++ rest) = .ok (tcp ("https://" ++ rest)) := by
  have hunix : Address.after? "unix://" ("https://" ++ rest) = none := by simp [Address.after?]
  have htcp : Address.after? "tcp://" ("https://" ++ rest) = none := by simp [Address.after?]
  have hhttp : Address.after? "http://" ("https://" ++ rest) = none := by simp [Address.after?]
  rw [parse, hunix, htcp, hhttp, Address.after?_eq_some_iff.mpr rfl]
  dsimp only
  rw [if_neg (by simp)]
  rfl

/-! ## All texts -/

theorem parse_of_names (h : Names text endpoint) : parse text = .ok endpoint := by
  cases h with
  | socket path h => exact parse_unix h
  | path rest => exact parse_absolute rest
  | network rest h => exact parse_tcp h
  | http rest => exact parse_http rest
  | https rest => exact parse_https rest

theorem after?_eq_none {start : String} (h : ∀ rest, text ≠ start ++ rest) :
    Address.after? start text = none :=
  Option.eq_none_iff_forall_ne_some.mpr fun rest hr => h rest (Address.after?_eq_some_iff.mp hr)

theorem exists_eq_slash_append (h : text.toList.head? = some '/') : ∃ rest, text = "/" ++ rest := by
  obtain ⟨rest, hrest⟩ := List.head?_eq_some_iff.mp h
  refine ⟨String.ofList rest, String.toList_injective ?_⟩
  rw [hrest, String.toList_append]
  show '/' :: rest = '/' :: (String.ofList rest).toList
  rw [String.toList_ofList]

theorem parse_of_namesNone {cause : EndpointError} (h : NamesNone text cause) :
    parse text = .error (.invalidEndpoint text cause) := by
  cases h with
  | emptyPath => rfl
  | emptyAddress => rfl
  | unknownProtocol h =>
    simp only [List.forall_mem_cons, List.not_mem_nil, false_implies, implies_true, and_true] at h
    obtain ⟨hunix, hslash, htcp, hhttp, hhttps⟩ := h
    have hhead : ¬(text.toList.head? == some '/') = true := fun he =>
      let ⟨rest, hrest⟩ := exists_eq_slash_append (beq_iff_eq.mp he)
      hslash rest hrest
    rw [parse, after?_eq_none hunix, after?_eq_none htcp, after?_eq_none hhttp,
      after?_eq_none hhttps]
    dsimp only
    rw [if_neg hhead]
    rfl

/-- Besides the texts that begin in none of the five ways, only two name no endpoint. -/
theorem exists_names_or_namesNone (text : String) :
    (∃ endpoint, Names text endpoint) ∨ ∃ cause, NamesNone text cause := by
  by_cases h : ∀ start ∈ ["unix://", "/", "tcp://", "http://", "https://"],
      ∀ rest, text ≠ start ++ rest
  · exact .inr ⟨_, .unknownProtocol h⟩
  · simp only [Classical.not_forall, Classical.not_not] at h
    obtain ⟨start, hstart, rest, rfl⟩ := h
    simp only [List.mem_cons, List.not_mem_nil, or_false] at hstart
    rcases hstart with rfl | rfl | rfl | rfl | rfl
    · by_cases hrest : rest = ""
      · rw [hrest, String.append_empty]
        exact .inr ⟨_, .emptyPath⟩
      · exact .inl ⟨_, .socket rest hrest⟩
    · exact .inl ⟨_, .path rest⟩
    · by_cases hrest : rest = ""
      · rw [hrest, String.append_empty]
        exact .inr ⟨_, .emptyAddress⟩
      · exact .inl ⟨_, .network rest hrest⟩
    · exact .inl ⟨_, .http rest⟩
    · exact .inl ⟨_, .https rest⟩

theorem parse_eq_ok_iff : parse text = .ok endpoint ↔ Names text endpoint := by
  refine ⟨fun h => ?_, parse_of_names⟩
  rcases exists_names_or_namesNone text with ⟨named, hn⟩ | ⟨cause, hn⟩
  · rw [parse_of_names hn] at h
    cases h
    exact hn
  · rw [parse_of_namesNone hn] at h
    cases h

theorem parse_eq_error_iff : parse text = .error failure ↔
    ∃ cause, NamesNone text cause ∧ failure = .invalidEndpoint text cause := by
  constructor
  · intro h
    rcases exists_names_or_namesNone text with ⟨named, hn⟩ | ⟨cause, hn⟩
    · rw [parse_of_names hn] at h
      cases h
    · rw [parse_of_namesNone hn] at h
      cases h
      exact ⟨cause, hn, rfl⟩
  · rintro ⟨cause, hn, rfl⟩
    exact parse_of_namesNone hn

/-! ## Shown again -/

/-- The text of an endpoint that some text names is another one of its names. -/
theorem Names.names_text (h : Names text endpoint) : Names endpoint.text endpoint := by
  cases h with
  | socket path h => exact .socket path h
  | path rest => exact .socket ("/" ++ rest) (by simp)
  | network rest => exact .http rest
  | http rest => exact .http rest
  | https rest => exact .https rest

theorem Names.unique (h : Names text endpoint) (h' : Names text endpoint') :
    endpoint = endpoint' :=
  Except.ok.inj ((parse_of_names h).symm.trans (parse_of_names h'))

/-- Endpoints are told apart by their texts. -/
theorem Names.eq_iff_text_eq (h : Names text endpoint) (h' : Names text' endpoint') :
    endpoint = endpoint' ↔ endpoint.text = endpoint'.text := by
  refine ⟨congrArg Endpoint.text, fun he => ?_⟩
  have hshown := h.names_text
  rw [he] at hshown
  exact hshown.unique h'.names_text

theorem texts_stable (text : String) :
    ((∃ endpoint, parse text = .ok endpoint) ↔
      (∃ rest, rest ≠ "" ∧ (text = "unix://" ++ rest ∨ text = "tcp://" ++ rest)) ∨
        ∃ rest, text = "/" ++ rest ∨ text = "http://" ++ rest ∨ text = "https://" ++ rest) ∧
    (∀ endpoint, parse text = .ok endpoint → parse endpoint.text = .ok endpoint ∧
      ∀ text' endpoint', parse text' = .ok endpoint' →
        (endpoint = endpoint' ↔ endpoint.text = endpoint'.text)) ∧
    (∀ failure, parse text = .error failure → failure.isUsage = true ∧
      Text.unquoted? (Text.quoted text) = some text ∧
      ∃ cause, failure = .invalidEndpoint text cause ∧
        failure.message =
          "invalid runtime endpoint " ++ Text.quoted text ++ ": " ++ cause.message) ∧
    (text ≠ "" → parse ("unix://" ++ text) = .ok (unix text) ∧
      parse ("tcp://" ++ text) = parse ("http://" ++ text)) ∧
    parse ("/" ++ text) = .ok (unix ("/" ++ text)) ∧
    parse ("/" ++ text) = parse ("unix://" ++ ("/" ++ text)) ∧
    parse ("http://" ++ text) = .ok (tcp ("http://" ++ text)) ∧
    parse ("https://" ++ text) = .ok (tcp ("https://" ++ text)) := by
  refine ⟨?_, ?_, ?_, ?_, parse_absolute text, ?_, parse_http text, parse_https text⟩
  · simp only [parse_eq_ok_iff]
    constructor
    · rintro ⟨endpoint, h⟩
      cases h with
      | socket path h => exact .inl ⟨path, h, .inl rfl⟩
      | path rest => exact .inr ⟨rest, .inl rfl⟩
      | network rest h => exact .inl ⟨rest, h, .inr rfl⟩
      | http rest => exact .inr ⟨rest, .inr (.inl rfl)⟩
      | https rest => exact .inr ⟨rest, .inr (.inr rfl)⟩
    · rintro (⟨rest, h, rfl | rfl⟩ | ⟨rest, rfl | rfl | rfl⟩)
      · exact ⟨_, .socket rest h⟩
      · exact ⟨_, .network rest h⟩
      · exact ⟨_, .path rest⟩
      · exact ⟨_, .http rest⟩
      · exact ⟨_, .https rest⟩
  · intro endpoint h
    have hn := parse_eq_ok_iff.mp h
    exact ⟨parse_of_names hn.names_text, fun text' endpoint' h' =>
      hn.eq_iff_text_eq (parse_eq_ok_iff.mp h')⟩
  · intro failure h
    obtain ⟨cause, -, rfl⟩ := parse_eq_error_iff.mp h
    exact ⟨rfl, Text.unquoted?_quoted text, cause, rfl, rfl⟩
  · exact fun h => ⟨parse_unix h, (parse_tcp h).trans (parse_http text).symm⟩
  · exact (parse_absolute text).trans (parse_unix (by simp)).symm

/-- An address that itself begins as a socket does, and a text that two protocols are in but that
begins with neither. -/
theorem texts_stable_nested :
    let text := "tcp://unix:///run/a"
    let refused := " tcp://unix://"
    parse text = .ok (tcp "http://unix:///run/a") ∧
      parse "http://unix:///run/a" = .ok (tcp "http://unix:///run/a") ∧
      parse ("unix://" ++ text) = .ok (unix text) ∧
      parse refused = .error (.invalidEndpoint refused .unknownProtocol) ∧
      Text.unquoted? (Text.quoted refused) = some refused ∧
      Failure.isUsage (.invalidEndpoint refused .unknownProtocol) = true := by
  intro text refused
  have hnamed : parse text = .ok (tcp "http://unix:///run/a") := by decide +kernel
  have hrefused : parse refused = .error (.invalidEndpoint refused .unknownProtocol) := by
    decide +kernel
  obtain ⟨-, hstable, -, hsocket, -⟩ := texts_stable text
  obtain ⟨-, -, hnone, -⟩ := texts_stable refused
  obtain ⟨husage, hquoted, -⟩ := hnone _ hrefused
  exact ⟨hnamed, (hstable _ hnamed).1, (hsocket (by decide)).1, hrefused, hquoted, husage⟩

end Endpoint
end ContainerRoster
