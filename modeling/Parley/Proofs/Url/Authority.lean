import Parley.Proofs.Outcome
import Parley.Proofs.Url.Path

/-!
Contract: what of an address its authority decides, and what the text after it.

For a scheme whose addresses have a host, the authority ends at the first
separator, question mark or number sign. It alone decides the host and the port;
the text after it decides the path, the query and the fragment.

Owns: `HasNoTail`, `IsAuthority`, and `parseHosted` as the composition of the two.
-/

namespace Parley.Url.Address

open Parley.Outcome (bind_eq_ok_iff)

private theorem drop_takeWhile (inside : Char → Bool) (text : List Char) :
    text.drop (text.takeWhile inside).length = text.dropWhile inside := by
  have cut := congrArg (List.drop (text.takeWhile inside).length)
    (List.takeWhile_append_dropWhile :
      text.takeWhile inside ++ text.dropWhile inside = text)
  rw [List.drop_left] at cut
  exact cut.symm

/-! ## The tail -/

/-- Whether a text has neither a query nor a fragment. -/
def HasNoTail (text : List Char) : Prop :=
  ∀ char ∈ text, char ≠ '?' ∧ char ≠ '#'

private theorem splitTail_of_hasNoTail {text : List Char}
    (noTail : HasNoTail text) :
    splitTail text = (text, none, none) := by
  have isPath : text.takeWhile (fun char => char != '?' && char != '#') = text :=
    List.takeWhile_eq_self_iff.mpr fun char member => by
      rw [Bool.and_eq_true, bne_iff_ne, bne_iff_ne]
      exact noTail char member
  rw [splitTail, isPath, List.drop_length]

private theorem hasNoTail_of_splitTail {text : List Char}
    (noQuery : (splitTail text).2.1 = none)
    (noFragment : (splitTail text).2.2 = none) : HasNoTail text := by
  have starts := List.head?_dropWhile_not
    (fun char : Char => char != '?' && char != '#') text
  rw [splitTail, drop_takeWhile] at noQuery noFragment
  cases tail : text.dropWhile fun char => char != '?' && char != '#' with
  | nil =>
      intro char member
      have isPath := List.dropWhile_eq_nil_iff.mp tail char member
      rw [Bool.and_eq_true, bne_iff_ne, bne_iff_ne] at isPath
      exact isPath
  | cons char rest =>
      rw [tail] at starts noQuery noFragment
      have isTail : (char != '?' && char != '#') = false := starts
      rw [Bool.and_eq_false_iff, bne_eq_false_iff_eq, bne_eq_false_iff_eq]
        at isTail
      rcases isTail with rfl | rfl
      · cases noQuery
      · cases noFragment

variable {scheme : String} {authority : Authority} {path : List Char → Path}

theorem Authority.complete_of_hasNoTail {text : List Char}
    (noTail : HasNoTail text) :
    authority.complete scheme path text =
      ⟨scheme, authority.credentials, some authority.host, authority.port,
        path text, none, none⟩ := by
  rw [Authority.complete, Address.complete, splitTail_of_hasNoTail noTail]
  rfl

theorem Authority.hasNoTail_of_complete {text : List Char}
    (noQuery : (authority.complete scheme path text).query = none)
    (noFragment : (authority.complete scheme path text).fragment = none) :
    HasNoTail text :=
  hasNoTail_of_splitTail (Option.map_eq_none_iff.mp noQuery)
    (Option.map_eq_none_iff.mp noFragment)

/-! ## The authority -/

private theorem splitPort_append (bracketed : Bool) (text : List Char) :
    (splitPort bracketed text).1 ++ (splitPort bracketed text).2 = text := by
  induction text generalizing bracketed with
  | nil => rfl
  | cons char rest inductionHypothesis =>
      rw [splitPort]
      split
      · rfl
      · exact congrArg (char :: ·) (inductionHypothesis _)

private theorem mem_of_mem_splitCredentials {authority : List Char}
    {char : Char}
    (member : char ∈ (splitCredentials authority).2) : char ∈ authority := by
  rw [splitCredentials] at member
  split at member
  · have inside := List.mem_reverse.mp member
    exact List.mem_reverse.mp ((List.takeWhile_sublist _).subset inside)
  · exact member

/-- Whether a text holds nothing that ends an authority. -/
def IsAuthority (text : List Char) : Prop :=
  ∀ char ∈ text, endsAuthority true char = false

/-- No reverse solidus is in the port of an authority. -/
theorem IsAuthority.not_backslash {written : List Char}
    (isAuthority : IsAuthority written) {char : Char}
    (member : char ∈ (splitPort false (splitCredentials written).2).2) :
    char ≠ '\\' := by
  have inside : char ∈ written := by
    refine mem_of_mem_splitCredentials ?_
    rw [← splitPort_append false (splitCredentials written).2]
    exact List.mem_append_right _ member
  rintro rfl
  exact absurd (isAuthority '\\' inside) (by decide)

/-- Without a reverse solidus nothing is left behind a port. -/
theorem parsePort_rest {text : List Char}
    (noBackslash : ∀ char ∈ text, char ≠ '\\') {port : Option Nat}
    {rest : List Char} (parsed : parsePort scheme text = .ok (port, rest)) :
    rest = [] := by
  have isWhole : (text.drop 1).dropWhile (· ≠ '\\') = [] :=
    List.dropWhile_eq_nil_iff.mpr fun char member =>
      decide_eq_true (noBackslash char ((List.drop_sublist 1 text).subset member))
  rw [parsePort, isWhole] at parsed
  split at parsed
  · cases parsed
  · split at parsed
    · cases parsed
    · split at parsed
      · cases parsed
      · split at parsed <;> cases parsed <;> rfl

variable (hosted : IsHosted scheme)
include hosted

/-- What follows an authority does not matter to it. -/
theorem IsHosted.parseAuthority_rest (written rest : List Char) :
    parseAuthority scheme written rest = parseAuthority scheme written [] := by
  simp only [parseAuthority, hosted.special, Bool.true_or, if_true]

/-- What an authority with a host is made of. -/
theorem IsHosted.parts_of_parseAuthority {written rest : List Char}
    {authority : Authority}
    (parsed : parseAuthority scheme written rest = .ok authority) :
    Host.parse (splitPort false (splitCredentials written).2).1 =
        .ok authority.host ∧
      parsePort scheme (splitPort false (splitCredentials written).2).2 =
        .ok (authority.port, authority.rest) := by
  simp only [parseAuthority, hosted.special, Bool.true_or, if_true] at parsed
  split at parsed
  · cases parsed
  · obtain ⟨host, isHost, parsed⟩ := bind_eq_ok_iff.mp parsed
    obtain ⟨⟨port, rest⟩, isPort, parsed⟩ := bind_eq_ok_iff.mp parsed
    cases parsed
    exact ⟨isHost, isPort⟩

private theorem IsHosted.authority_rest {written : List Char}
    (isAuthority : IsAuthority written) {authority : Authority}
    (parsed : parseAuthority scheme written [] = .ok authority) :
    authority.rest = [] :=
  parsePort_rest (fun _ member => isAuthority.not_backslash member)
    (hosted.parts_of_parseAuthority parsed).2

/-- The authority decides the host and the port, what follows it the rest. -/
theorem IsHosted.parseHosted_append {written after : List Char}
    (isAuthority : IsAuthority written)
    (ends : ∀ char ∈ after.head?, endsAuthority true char = true) :
    parseHosted scheme (written ++ after) =
      (parseAuthority scheme written []).map fun authority =>
        authority.complete scheme (parseSegments scheme) after := by
  have inside : ∀ char ∈ written, (!endsAuthority true char) = true :=
    fun char member => by rw [isAuthority char member]; rfl
  have none : after.takeWhile (!endsAuthority true ·) = [] := by
    cases after with
    | nil => rfl
    | cons char after =>
        exact List.takeWhile_cons_of_neg (by rw [ends char rfl]; decide)
  have isWritten : (written ++ after).takeWhile (!endsAuthority true ·) =
      written := by
    rw [List.takeWhile_append_of_pos inside, none, List.append_nil]
  simp only [parseHosted, hosted.special, isWritten, List.drop_left,
    Bool.true_or, if_true]
  rw [hosted.parseAuthority_rest]
  cases parsed : parseAuthority scheme written [] with
  | error => rfl
  | ok authority =>
      show Except.ok (authority.complete _ _ (authority.rest ++ after)) = _
      rw [hosted.authority_rest isAuthority parsed, List.nil_append]
      rfl

end Parley.Url.Address
