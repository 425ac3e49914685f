import Parley.Proofs.Outcome
import Parley.Proofs.Text.Utf8
import Parley.Proofs.Url.Mapping
import Parley.Url.Host

/-!
Contract: no host is read from a text that ends in a space or a control character.

Such a character stands for itself in a domain name, whatever stands around it:
it is no part of an escape, nothing replaces it, composing keeps it, and in an
encoded label it is no digit. So it reaches a label, which is not admissible then.

Owns: what becomes of such characters on the way from a text to the labels.
-/

namespace Parley.Url

open Parley.Outcome (mem_of_mapM_eq_some)
open Parley.Text (Bytes IsControlOrSpace digitIn? numberIn? splitAt)

namespace Domain

/-! ## Characters of names -/

variable {low : Char} (isLow : IsControlOrSpace low)
include isLow

private theorem mem_mapName? {name mapped : List Char} (member : low ∈ name)
    (isMapped : mapName? name = some mapped) : low ∈ mapped := by
  obtain ⟨parts, areParts, rfl⟩ := Option.map_eq_some_iff.mp isMapped
  obtain ⟨part, isPart, isOwn⟩ := mem_of_mapM_eq_some areParts member
  rw [Mapping.map?_low isLow] at isOwn
  cases isOwn
  exact Text.Composition.mem_compose isLow
    (List.mem_flatten.mpr ⟨[low], isPart, List.mem_singleton_self low⟩)

/-! ## Encoded labels -/

namespace Punycode

private theorem digitValue?_low : digitValue? low = none := by
  unfold digitValue?
  rw [if_neg fun letter => isLow.not_le (by decide) letter.1,
    if_neg fun letter => isLow.not_le (by decide) letter.1,
    if_neg fun digit => isLow.not_le (by decide) digit.1]

omit isLow in
/-- A text is its plain characters, a hyphen and its digits, or digits only. -/
theorem splitBasic_split (text : List Char) :
    splitBasic text = ([], text) ∨ ∃ before digits,
      splitBasic text = (before, digits) ∧ text = before ++ '-' :: digits := by
  have cut : text.reverse.takeWhile (· ≠ '-') ++
      text.reverse.dropWhile (· ≠ '-') = text.reverse :=
    List.takeWhile_append_dropWhile
  have stops := List.head?_dropWhile_not (fun char : Char => decide (char ≠ '-'))
    text.reverse
  unfold splitBasic
  dsimp only
  generalize text.reverse.takeWhile (· ≠ '-') = digits at cut
  generalize text.reverse.dropWhile (· ≠ '-') = before at cut stops
  have isText := congrArg List.reverse cut
  rw [List.reverse_reverse, List.reverse_append] at isText
  cases before with
  | nil =>
      have isShort : text.length - digits.reverse.length - 1 = 0 := by
        rw [← isText, List.reverse_nil, List.nil_append, Nat.sub_self]
      rw [isShort]
      exact .inl rfl
  | cons hyphen before =>
      have isHyphen : hyphen = '-' :=
        Decidable.not_not.mp (of_decide_eq_false stops)
      rw [isHyphen, List.reverse_cons, List.append_assoc,
        List.singleton_append] at isText
      have isRest : text.length - digits.reverse.length - 1 =
          before.reverse.length := by
        rw [← isText, List.length_append, List.length_cons]
        omega
      have isBefore : text.take before.reverse.length = before.reverse := by
        rw [← isText, List.take_left]
      rw [isRest, isBefore]
      split
      · exact .inl rfl
      · exact .inr ⟨_, _, rfl, isText.symm⟩

omit isLow in
private theorem Decoding.mem_insert? {decoding next : Decoding} {char : Char}
    {number : Nat}
    (member : char ∈ decoding.chars) (inserted : decoding.insert? number = some next) :
    char ∈ next.chars := by
  unfold insert? at inserted
  dsimp only at inserted
  by_cases valid : (decoding.code +
      (decoding.index + number) / (decoding.chars.length + 1)).isValidChar
  · rw [dif_pos valid] at inserted
    cases inserted
    rw [← List.take_append_drop _ decoding.chars] at member
    rcases List.mem_append.mp member with isBefore | isAfter
    · exact List.mem_append_left _ isBefore
    · exact List.mem_append_right _ (List.mem_cons_of_mem _ isAfter)
  · rw [dif_neg valid] at inserted
    cases inserted

omit isLow in
private theorem Decoding.mem_step? {decoding next : Decoding}
    {char digit : Char}
    (member : char ∈ decoding.chars) (stepped : decoding.step? digit = some next) :
    char ∈ next.chars := by
  unfold step? at stepped
  split at stepped
  · cases stepped
  · dsimp only at stepped
    split at stepped
    · exact mem_insert? member stepped
    · cases stepped
      exact member

private theorem mem_decode? {text label : List Char} (member : low ∈ text)
    (decoded : decode? text = some label) : low ∈ label := by
  have reads (decoding last : Decoding) (digits : List Char)
      (present : low ∈ decoding.chars ∨ low ∈ digits)
      (read : digits.foldlM Decoding.step? decoding = some last) :
      low ∈ last.chars := by
    induction digits generalizing decoding with
    | nil =>
        cases read
        exact present.resolve_right List.not_mem_nil
    | cons digit digits inductionHypothesis =>
        rw [List.foldlM_cons] at read
        obtain ⟨next, stepped, read⟩ := Option.bind_eq_some_iff.mp read
        refine inductionHypothesis next ?_ read
        rcases present with earlier | present
        · exact .inl (Decoding.mem_step? earlier stepped)
        · rcases List.mem_cons.mp present with rfl | later
          · rw [Decoding.step?, digitValue?_low isLow] at stepped
            cases stepped
          · exact .inr later
  unfold decode? at decoded
  have stays {basic digits : List Char} (present : low ∈ basic ∨ low ∈ digits)
      (isSplit : splitBasic text = (basic, digits)) : low ∈ label := by
    rw [isSplit] at decoded
    dsimp only at decoded
    split at decoded
    · rename_i decoding read
      split at decoded
      · cases decoded
        exact reads (.start basic) decoding digits present read
      · cases decoded
    · cases decoded
  rcases splitBasic_split text with isSplit | ⟨before, digits, isSplit, isText⟩
  · exact stays (.inr member) isSplit
  · rw [isText] at member
    rcases List.mem_append.mp member with isBefore | isAfter
    · exact stays (.inl isBefore) isSplit
    · exact stays (.inr ((List.mem_cons.mp isAfter).resolve_left
        (isLow.ne (by decide)).symm)) isSplit

end Punycode

/-! ## Labels -/

private theorem mem_plainLabel? {text label : List Char} (member : low ∈ text)
    (isPlain : plainLabel? text = some label) : low ∈ label := by
  unfold plainLabel? at isPlain
  split at isPlain
  · rename_i isMarked
    obtain ⟨rest, rfl⟩ := List.isPrefixOf_iff_prefix.mp isMarked
    rw [List.drop_left, decodeLabel?] at isPlain
    split at isPlain
    · cases isPlain
    · obtain ⟨decoded, _⟩ := Option.filter_eq_some_iff.mp isPlain
      refine Punycode.mem_decode? isLow ?_ decoded
      refine (List.mem_append.mp member).resolve_left fun isMark => ?_
      have visible : encodedMark.all (0x20 < ·.toNat) = true := by decide
      exact absurd isLow (Nat.not_le_of_lt
        (of_decide_eq_true (List.all_eq_true.mp visible low isMark)))
  · cases isPlain
    exact member

private theorem not_isAdmissible {label : List Char} (member : low ∈ label) :
    isAdmissible label = false := by
  have forbidden : label.any isForbidden = true :=
    List.any_eq_true.mpr ⟨low, member, by
      have isSmall : low.toNat ≤ 0x20 := isLow
      rw [isForbidden, decide_eq_true isSmall, Bool.true_or, Bool.true_or]⟩
  rw [isAdmissible, forbidden, Bool.not_true, Bool.and_false, Bool.false_and,
    Bool.false_and]

private theorem labels?_low {name : List Char} (member : low ∈ name) :
    labels? name = none := by
  have inPart : ∃ part ∈ splitAt '.' name, low ∈ part :=
    Text.mem_splitAt member (isLow.ne (by decide)).symm
  obtain ⟨part, isPart, inPart⟩ := inPart
  unfold labels?
  split
  · rfl
  · rename_i areLabels
    obtain ⟨label, isLabel, isPlain⟩ := mem_of_mapM_eq_some areLabels isPart
    have refused : (_ : List (List Char)).all isAdmissible = false :=
      List.all_eq_false.mpr ⟨label, isLabel, by
        rw [not_isAdmissible isLow (mem_plainLabel? isLow inPart isPlain)]
        exact Bool.false_ne_true⟩
    rw [refused]
    rfl

private theorem toAscii?_low {bytes : Bytes}
    (member : UInt8.ofNat low.toNat ∈ bytes) : toAscii? bytes = none := by
  unfold toAscii?
  split
  · rfl
  · rename_i name decoded
    have inName : low ∈ name.toList := by
      obtain ⟨chars, areChars, rfl⟩ := Option.map_eq_some_iff.mp decoded
      obtain ⟨char, isChar, same⟩ := mem_of_mapM_eq_some areChars
        (Text.Utf8.char_mem_pieces isLow.single member)
      cases same
      rw [isLow.toNat_byte, Char.ofNat_toNat] at isChar
      rw [String.toList_ofList]
      exact isChar
    rw [Option.map_eq_none_iff, Option.bind_eq_none_iff]
    exact fun mapped isMapped =>
      labels?_low isLow (mem_mapName? isLow inName isMapped)

end Domain

/-! ## Hosts -/

theorem digitIn?_low {low : Char} (isLow : IsControlOrSpace low) (base : Nat) :
    digitIn? base low = none := by
  unfold digitIn?
  dsimp only
  rw [if_neg fun digit => isLow.not_le (by decide) digit.1,
    if_neg fun letter => isLow.not_le (by decide) letter.1,
    if_neg fun letter => isLow.not_le (by decide) letter.1]
  rfl

/-- Such a character is no part of an escape. -/
theorem Percent.byte?_low {low : Char} (isLow : IsControlOrSpace low)
    {first second : Char} (present : low = first ∨ low = second) :
    byte? first second = none := by
  simp only [byte?, numberIn?, List.foldlM_cons]
  rcases present with rfl | rfl
  · rw [digitIn?_low isLow]
    rfl
  · rw [digitIn?_low isLow]
    cases digitIn? 16 first <;> rfl

private theorem Percent.mem_decode {low : Char} (isLow : IsControlOrSpace low)
    {text : List Char} (member : low ∈ text) :
    UInt8.ofNat low.toNat ∈ decode text := by
  fun_induction decode text with
  | case1 first second rest byte isByte inductionHypothesis =>
      have notDigit (present : low = first ∨ low = second) : False := by
        rw [byte?_low isLow present] at isByte
        cases isByte
      refine List.mem_cons_of_mem _ (inductionHypothesis ?_)
      rcases List.mem_cons.mp member with isPercent | member
      · exact absurd isPercent.symm (isLow.ne (by decide))
      · rcases List.mem_cons.mp member with isFirst | member
        · exact (notDigit (.inl isFirst)).elim
        · exact (List.mem_cons.mp member).resolve_left fun isSecond =>
            notDigit (.inr isSecond)
  | case2 first second rest noByte inductionHypothesis =>
      exact List.mem_cons_of_mem _ (inductionHypothesis
        ((List.mem_cons.mp member).resolve_left (isLow.ne (by decide)).symm))
  | case3 char rest notEscape inductionHypothesis =>
      rcases List.mem_cons.mp member with rfl | later
      · refine List.mem_append_left _ ?_
        rw [isLow.utf8EncodeChar]
        exact List.mem_singleton_self _
      · exact List.mem_append_right _ (inductionHypothesis later)
  | case4 => cases member

/-- No host is read from a text that ends in a space or a control character. -/
theorem Host.parse_low {text : List Char} {low : Char}
    (isLow : IsControlOrSpace low) (isLast : text.getLast? = some low) :
    ∃ fault, Host.parse text = .error fault := by
  unfold Host.parse
  split
  · unfold parseBracketed
    rw [if_neg fun bracketed => isLow.ne (by decide)
      (Option.some.inj (bracketed.1.symm.trans isLast))]
    exact ⟨_, rfl⟩
  · rw [Domain.toAscii?_low isLow
      (Percent.mem_decode isLow (List.mem_of_getLast? isLast))]
    exact ⟨_, rfl⟩

end Parley.Url
