import Parley.Proofs.Url.Authority

/-!
Contract: what of a text its scheme decides.

The scheme is read before anything else, and a text that goes on behind it has
the same scheme. Every address that is read has the scheme of its text.

Owns: `takeScheme` of texts that go on, and `parse` for a scheme whose addresses
have a host.
-/

namespace Parley.Url.Address

open Parley.Outcome (bind_eq_ok_iff map_eq_ok_iff)

/-! ## The scheme -/

theorem scan_split {inside : Char → Bool} {text rest : List Char} {char : Char}
    (left : text.dropWhile inside = char :: rest) :
    text = text.takeWhile inside ++ char :: rest := by
  rw [← left, List.takeWhile_append_dropWhile]

/-- What stops a scan stops it as well if more follows. -/
theorem scan_append {inside : Char → Bool} {text rest : List Char} {char : Char}
    (left : text.dropWhile inside = char :: rest) (more : List Char) :
    (text ++ more).dropWhile inside = char :: (rest ++ more) ∧
      (text ++ more).takeWhile inside = text.takeWhile inside := by
  have isPart : (text.takeWhile inside).length ≠ text.length := by
    have whole := congrArg List.length (scan_split left)
    rw [List.length_append, List.length_cons] at whole
    omega
  constructor
  · rw [List.dropWhile_append, left]
    rfl
  · rw [List.takeWhile_append, if_neg isPart]

/-- A scan of two texts that stops at a character which the second one does not
hold stops in the first one. -/
theorem scan_of_append {inside : Char → Bool} {front more rest : List Char}
    {char : Char} (left : (front ++ more).dropWhile inside = char :: rest)
    (absent : char ∉ more) :
    ∃ inner, front.dropWhile inside = char :: inner ∧ rest = inner ++ more ∧
      (front ++ more).takeWhile inside = front.takeWhile inside := by
  cases inFront : front.dropWhile inside with
  | nil =>
      rw [List.dropWhile_append, inFront, List.isEmpty_nil, if_pos rfl] at left
      exact absurd ((List.dropWhile_sublist inside).subset
        (left ▸ List.mem_cons_self)) absent
  | cons first inner =>
      obtain ⟨dropped, kept⟩ := scan_append inFront more
      rw [dropped] at left
      cases left
      exact ⟨inner, rfl, rfl, kept⟩

theorem takeScheme_append {text rest : List Char} {scheme : String}
    (taken : takeScheme text = some (scheme, rest)) (more : List Char) :
    takeScheme (text ++ more) = some (scheme, rest ++ more) := by
  unfold takeScheme at taken ⊢
  dsimp only at taken ⊢
  split at taken
  · rename_i left
    obtain ⟨dropped, kept⟩ := scan_append left more
    rw [dropped, kept]
    split at taken
    · rename_i named
      cases taken
      exact if_pos named
    · cases taken
  · cases taken

/-- A scheme is not in what follows the last colon. -/
theorem takeScheme_of_append {front more rest : List Char} {scheme : String}
    (taken : takeScheme (front ++ more) = some (scheme, rest))
    (noColon : ':' ∉ more) :
    ∃ inner, takeScheme front = some (scheme, inner) ∧ rest = inner ++ more := by
  unfold takeScheme at taken ⊢
  dsimp only at taken ⊢
  split at taken
  · rename_i left
    obtain ⟨inner, inFront, rfl, kept⟩ := scan_of_append left noColon
    rw [inFront]
    rw [kept] at taken
    split at taken
    · rename_i named
      cases taken
      exact ⟨inner, if_pos named, rfl⟩
    · cases taken
  · cases taken

/-! ## Parsing -/

variable {scheme : String}

theorem IsHosted.parse (hosted : IsHosted scheme) {text : String}
    {rest : List Char}
    (taken : takeScheme (trimControls text.toList) = some (scheme, rest)) :
    Address.parse text =
      parseHosted scheme ((dropIgnored rest).dropWhile (isSeparator true)) := by
  unfold Address.parse
  rw [taken]
  split
  · rename_i absent
    cases absent
  · rename_i isFile
    cases isFile
    exact absurd rfl hosted.notFile
  · rename_i same
    cases same
    dsimp only
    rw [hosted.special, if_pos rfl]

theorem parseHosted_scheme {text : List Char} {address : Address}
    (parsed : parseHosted scheme text = .ok address) :
    address.scheme = scheme := by
  obtain ⟨authority, _, parsed⟩ := bind_eq_ok_iff.mp parsed
  cases parsed
  rfl

private theorem parseFile_scheme {text : List Char} {address : Address}
    (parsed : parseFile text = .ok address) : address.scheme = "file" := by
  unfold parseFile parseFileHost at parsed
  dsimp only at parsed
  split at parsed
  · split at parsed
    · cases parsed
      rfl
    · split at parsed
      · cases parsed
        rfl
      · obtain ⟨host, _, rfl⟩ := map_eq_ok_iff.mp parsed
        split <;> rfl
  · cases parsed
    rfl

/-- An address has the scheme that its text starts with. -/
theorem takeScheme_of_parse {text : String} {address : Address}
    (parsed : Address.parse text = .ok address) :
    ∃ rest, takeScheme (trimControls text.toList) =
      some (address.scheme, rest) := by
  unfold Address.parse at parsed
  split at parsed
  · cases parsed
  · rename_i rest taken
    exact ⟨rest, by rw [taken, parseFile_scheme parsed]⟩
  · rename_i scheme rest _ taken
    refine ⟨rest, ?_⟩
    have sameScheme : address.scheme = scheme := by
      dsimp only at parsed
      split at parsed
      · exact parseHosted_scheme parsed
      · split at parsed
        · exact parseHosted_scheme parsed
        · cases parsed
          rfl
        · cases parsed
          rfl
    rw [taken, sameScheme]

end Parley.Url.Address
