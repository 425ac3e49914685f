import Mathlib.Data.List.DropRight
import Parley.Proofs.Config.CheckedFields
import Parley.Proofs.Text.Ascii

/-!
Contract: what settings give away of their key.

Of a long key of the issued form a log shows the identifier, of another long ASCII
text the ends, and of every other key nothing. Keys that agree in that much are not
told apart by any rendering, nor, if they are issued to one identifier, by the
checks. The parts shown are cut out of the bytes of the key, which never fails.

Owns: the kinds of keys, `Secret.partlyOfBytes?`, and which keys renderings and
checks confuse.
-/

namespace Parley.Config

open Parley.Text
open Placeholder (HoldsPlaceholder)

namespace Secret

/-! ## Kinds of keys -/

/-- Whether a key is an ASCII text of more than eight bytes. -/
def IsLong (key : Secret) : Prop :=
  Utf8.IsAscii key.value.toList ∧ 8 < (Utf8.encode key.value).length

/-- Whether a key has at most eight bytes, or a character that is not ASCII. -/
def IsMasked (key : Secret) : Prop :=
  (Utf8.encode key.value).length ≤ 8 ∨ ¬ Utf8.IsAscii key.value.toList

/-- Whether a key is an identifier, a full stop, and a secret proper, in which full
stops may stand. -/
def IssuedTo (identifier : List Char) (key : Secret) : Prop :=
  identifier ≠ [] ∧ '.' ∉ identifier ∧
    ∃ proper, proper ≠ [] ∧ key.value.toList = identifier ++ '.' :: proper

variable {key : Secret}

theorem IsLong.not_isMasked (long : key.IsLong) : ¬ key.IsMasked := by
  rintro (short | beyond)
  · exact absurd long.2 (Nat.not_lt_of_le short)
  · exact beyond long.1

theorem IsLong.ne_nil (long : key.IsLong) : key.value.toList ≠ [] := by
  intro none
  have bytes := long.2
  rw [Utf8.encode, none] at bytes
  exact absurd bytes (by decide)

theorem IsLong.length (long : key.IsLong) : 8 < key.value.toList.length := by
  rw [← Utf8.length_encode_ascii long.1]
  exact long.2

theorem IssuedTo.ne_empty {identifier : List Char}
    (issued : key.IssuedTo identifier) : key.value ≠ "" := by
  obtain ⟨_, _, proper, _, spelled⟩ := issued
  intro empty
  rw [empty] at spelled
  exact List.append_ne_nil_of_right_ne_nil _ (List.cons_ne_nil _ _) spelled.symm

/-! ## The first full stop -/

theorem splitDot_append {identifier proper : List Char}
    (noDot : '.' ∉ identifier) :
    splitDot (identifier ++ '.' :: proper) = some (identifier, proper) := by
  have others : ∀ char ∈ identifier, decide (char ≠ '.') = true :=
    fun char member => decide_eq_true (ne_of_mem_of_not_mem member noDot)
  rw [splitDot, List.dropWhile_append_of_pos others,
    List.takeWhile_append_of_pos others, List.dropWhile_cons_of_neg (by decide),
    List.takeWhile_cons_of_neg (by decide), List.append_nil]

private theorem splitDot_eq_none {text : List Char} (noDot : '.' ∉ text) :
    splitDot text = none := by
  have others : ∀ char ∈ text, decide (char ≠ '.') = true :=
    fun char member => decide_eq_true (ne_of_mem_of_not_mem member noDot)
  rw [splitDot, List.dropWhile_eq_nil_iff.mpr others]

/-! ## Partial renderings -/

/-- Counting characters hides the same keys as counting bytes: where the counts
differ, the key is not ASCII. -/
theorem isMasked_iff :
    (key.value.toList.any (0x7F < ·.toNat) ||
      decide (key.value.toList.length ≤ 8)) = true ↔ key.IsMasked := by
  rw [Bool.or_eq_true, List.any_eq_true, decide_eq_true_iff, IsMasked]
  by_cases ascii : Utf8.IsAscii key.value.toList
  · rw [Utf8.length_encode_ascii ascii]
    constructor
    · rintro (⟨char, member, beyond⟩ | short)
      · have single := ascii char member
        have wide := of_decide_eq_true beyond
        omega
      · exact .inl short
    · rintro (short | beyond)
      · exact .inr short
      · exact absurd ascii beyond
  · refine iff_of_true (.inl ?_) (.inr ascii)
    obtain ⟨char, beyond⟩ := not_forall.mp ascii
    obtain ⟨member, beyond⟩ := Classical.not_imp.mp beyond
    exact ⟨char, member,
      decide_eq_true (Nat.lt_of_succ_le (Nat.le_of_not_lt beyond))⟩

theorem partly_masked (notEmpty : key.value ≠ "") (masked : key.IsMasked) :
    key.partly = redacted := by
  have nonempty : ¬ key.value.toList.isEmpty = true := by
    rw [List.isEmpty_iff]
    exact mt String.toList_eq_nil_iff.mp notEmpty
  rw [partly, if_neg nonempty, if_pos (isMasked_iff.mpr masked)]

/-- What stands for a long key with these characters around its first full
stop. -/
def issuedRendering (identifier proper : List Char) : String :=
  if identifier.isEmpty || proper.isEmpty then redacted
  else String.ofList identifier ++ "." ++ redacted

theorem partly_dotted (long : key.IsLong) {identifier proper : List Char}
    (noDot : '.' ∉ identifier)
    (spelled : key.value.toList = identifier ++ '.' :: proper) :
    key.partly = issuedRendering identifier proper := by
  rw [partly, if_neg (mt List.isEmpty_iff.mp long.ne_nil),
    if_neg (mt isMasked_iff.mp long.not_isMasked), spelled,
    splitDot_append noDot]
  rfl

theorem partly_undotted (long : key.IsLong) (noDot : '.' ∉ key.value.toList) :
    key.partly = String.ofList (key.value.toList.take 2) ++ "..." ++
      String.ofList (key.value.toList.rtake 2) := by
  rw [partly, if_neg (mt List.isEmpty_iff.mp long.ne_nil),
    if_neg (mt isMasked_iff.mp long.not_isMasked), splitDot_eq_none noDot]
  rfl

/-! ## Cutting the bytes of a key -/

/-- The partial rendering of a key as it is cut out of the bytes of the key;
nothing if a cut does not lie within them or not between two characters. -/
def partlyOfBytes? (key : Secret) : Option String :=
  let bytes := Utf8.encode key.value
  if bytes.isEmpty then some "[EMPTY]"
  else if bytes.length ≤ 8 || bytes.any (0x80 ≤ ·) then some redacted
  else
    match bytes.findIdx? (· == 0x2E) with
    | some dot => do
        let identifier ← Utf8.slice? bytes 0 dot
        let proper ← Utf8.slice? bytes (dot + 1) bytes.length
        if identifier.isEmpty || proper.isEmpty then some redacted
        else return (← Utf8.decode? identifier) ++ "." ++ redacted
    | none => do
        let front ← Utf8.slice? bytes 0 2
        let back ←
          if 2 ≤ bytes.length then
            Utf8.slice? bytes (bytes.length - 2) bytes.length
          else none
        return (← Utf8.decode? front) ++ "..." ++ (← Utf8.decode? back)

theorem isMasked_iff_bytes :
    (decide ((Utf8.encode key.value).length ≤ 8) ||
      (Utf8.encode key.value).any (0x80 ≤ ·)) = true ↔ key.IsMasked := by
  rw [Bool.or_eq_true, decide_eq_true_iff, IsMasked, Utf8.isAscii_iff_bytes,
    List.any_eq_true]
  refine or_congr_right ?_
  rw [not_forall]
  refine exists_congr fun byte => ?_
  rw [Classical.not_imp, decide_eq_true_iff, UInt8.not_lt]

theorem findIdx?_dot_eq_none {text : List Char} (noDot : '.' ∉ text) :
    text.findIdx? (· == '.') = none :=
  List.findIdx?_eq_none_iff.mpr fun _ member =>
    beq_eq_false_iff_ne.mpr (ne_of_mem_of_not_mem member noDot)

/-- The first full stop of a key stands behind as many bytes as characters. -/
theorem findDot_long (long : key.IsLong) :
    (Utf8.encode key.value).findIdx? (· == 0x2E) =
      key.value.toList.findIdx? (· == '.') :=
  Utf8.findIdx?_encode_ascii long.1 (show '.'.toNat < 0x80 by decide)

theorem bytes_not_isEmpty (long : key.IsLong) :
    ¬ (Utf8.encode key.value).isEmpty = true := by
  rw [Utf8.encode_isEmpty, List.isEmpty_iff]
  exact long.ne_nil

private theorem partlyOfBytes?_dotted (long : key.IsLong)
    {identifier proper : List Char} (noDot : '.' ∉ identifier)
    (spelled : key.value.toList = identifier ++ '.' :: proper) :
    key.partlyOfBytes? = some (issuedRendering identifier proper) := by
  have found : (Utf8.encode key.value).findIdx? (· == 0x2E) =
      some identifier.length := by
    rw [findDot_long long, spelled, List.findIdx?_append,
      findIdx?_dot_eq_none noDot, List.findIdx?_cons,
      if_pos (beq_self_eq_true '.'), Option.none_or, Option.map_some,
      Nat.zero_add]
  have length : key.value.toList.length =
      identifier.length + 1 + proper.length := by
    rw [spelled, List.length_append, List.length_cons]
    omega
  have before : Utf8.slice? (Utf8.encode key.value) 0 identifier.length =
      some (Utf8.encode (String.ofList identifier)) := by
    rw [Utf8.slice?_ascii long.1 (Nat.zero_le _) (by omega), spelled,
      List.take_left, List.drop_zero]
  have behind : Utf8.slice? (Utf8.encode key.value) (identifier.length + 1)
      (Utf8.encode key.value).length =
        some (Utf8.encode (String.ofList proper)) := by
    rw [Utf8.length_encode_ascii long.1,
      Utf8.slice?_ascii long.1 (by omega) (Nat.le_refl _), List.take_length,
      spelled, List.append_cons,
      List.drop_left' (by rw [List.length_append, List.length_singleton])]
  rw [partlyOfBytes?, if_neg (bytes_not_isEmpty long),
    if_neg (mt isMasked_iff_bytes.mp long.not_isMasked)]
  simp only [found, before, behind, Option.bind_eq_bind, Option.bind_some,
    Utf8.encode_isEmpty, String.toList_ofList, Utf8.decode?_encode,
    issuedRendering]
  split <;> rfl

private theorem partlyOfBytes?_undotted (long : key.IsLong)
    (noDot : '.' ∉ key.value.toList) :
    key.partlyOfBytes? =
      some (String.ofList (key.value.toList.take 2) ++ "..." ++
        String.ofList (key.value.toList.rtake 2)) := by
  have found : (Utf8.encode key.value).findIdx? (· == 0x2E) = none := by
    rw [findDot_long long, findIdx?_dot_eq_none noDot]
  have enough := long.length
  have front : Utf8.slice? (Utf8.encode key.value) 0 2 =
      some (Utf8.encode (String.ofList (key.value.toList.take 2))) := by
    rw [Utf8.slice?_ascii long.1 (Nat.zero_le _) (by omega), List.drop_zero]
  have back : Utf8.slice? (Utf8.encode key.value)
      ((Utf8.encode key.value).length - 2) (Utf8.encode key.value).length =
        some (Utf8.encode (String.ofList (key.value.toList.rtake 2))) := by
    rw [Utf8.length_encode_ascii long.1,
      Utf8.slice?_ascii long.1 (by omega) (Nat.le_refl _), List.take_length,
      List.rtake]
  have twoBytes : 2 ≤ (Utf8.encode key.value).length := by
    rw [Utf8.length_encode_ascii long.1]
    omega
  rw [partlyOfBytes?, if_neg (bytes_not_isEmpty long),
    if_neg (mt isMasked_iff_bytes.mp long.not_isMasked)]
  simp only [found, front, back, if_pos twoBytes, Option.bind_eq_bind,
    Option.bind_some, Utf8.decode?_encode]
  rfl

private theorem isLong_of_not_isMasked (shown : ¬ key.IsMasked) : key.IsLong :=
  ⟨by_contra fun beyond => shown (.inr beyond),
    Nat.lt_of_not_le fun short => shown (.inl short)⟩

/-- Every key has a partial rendering: no cut fails. -/
theorem partlyOfBytes?_eq (key : Secret) :
    key.partlyOfBytes? = some key.partly := by
  by_cases empty : key.value.toList.isEmpty = true
  · rw [partlyOfBytes?, if_pos (by rwa [Utf8.encode_isEmpty]), partly,
      if_pos empty]
  by_cases masked : key.IsMasked
  · rw [partlyOfBytes?, if_neg (by rwa [Utf8.encode_isEmpty]),
      if_pos (isMasked_iff_bytes.mpr masked), partly, if_neg empty,
      if_pos (isMasked_iff.mpr masked)]
  have long := isLong_of_not_isMasked masked
  by_cases dotted : '.' ∈ key.value.toList
  · obtain ⟨identifier, proper, spelled, noDot⟩ :=
      List.eq_append_cons_of_mem dotted
    rw [partlyOfBytes?_dotted long noDot spelled,
      partly_dotted long noDot spelled]
  · rw [partlyOfBytes?_undotted long dotted, partly_undotted long dotted]

end Secret

/-! ## Renderings and checks -/

/-- Settings with another key. -/
def Settings.withKey (settings : Settings) (key : Secret) : Settings :=
  { settings with apiKey := key }

variable {settings : Settings} {first second : Secret}

theorem Settings.forLog_withKey (same : first.partly = second.partly) :
    (settings.withKey first).forLog = (settings.withKey second).forLog := by
  unfold Settings.forLog Settings.withKey
  dsimp only
  rw [same]

theorem Settings.forDebug_withKey :
    (settings.withKey first).forDebug = (settings.withKey second).forDebug := by
  unfold Settings.forDebug Settings.withKey
  dsimp only

theorem Secret.IssuedTo.hasKeyForm {identifier : List Char} {key : Secret}
    (issued : key.IssuedTo identifier) : key.hasKeyForm = true := by
  obtain ⟨named, noDot, proper, notEmpty, spelled⟩ := issued
  rw [Secret.hasKeyForm, spelled, Secret.splitDot_append noDot]
  rw [Bool.and_eq_true, Bool.not_eq_true', Bool.not_eq_true',
    List.isEmpty_eq_false_iff, List.isEmpty_eq_false_iff]
  exact ⟨named, notEmpty⟩

theorem Secret.IssuedTo.partly {identifier : List Char} {key : Secret}
    (issued : key.IssuedTo identifier) (long : key.IsLong) :
    key.partly = String.ofList identifier ++ "." ++ Secret.redacted := by
  obtain ⟨named, noDot, proper, notEmpty, spelled⟩ := issued
  rw [Secret.partly_dotted long noDot spelled, Secret.issuedRendering, if_neg]
  rw [Bool.or_eq_true, List.isEmpty_iff, List.isEmpty_iff]
  exact not_or.mpr ⟨named, notEmpty⟩

private theorem Settings.review_withKey {identifier : List Char}
    (firstIssued : first.IssuedTo identifier)
    (secondIssued : second.IssuedTo identifier)
    (firstPlain : ¬ HoldsPlaceholder first.value.toList)
    (secondPlain : ¬ HoldsPlaceholder second.value.toList) :
    (settings.withKey first).review = (settings.withKey second).review := by
  have firstSound : CheckedField.apiKey.Sound first :=
    ⟨firstPlain, firstIssued.ne_empty⟩
  have secondSound : CheckedField.apiKey.Sound second :=
    ⟨secondPlain, secondIssued.ne_empty⟩
  have sameOutcome :
      (CheckedField.apiKey.put (settings.withKey first) second).validate =
        (settings.withKey first).validate :=
    Settings.validate_put firstSound secondSound
  change (settings.withKey second).validate = _ at sameOutcome
  have sameWarnings : (settings.withKey second).warnings =
      (settings.withKey first).warnings := by
    rw [Settings.warnings, Settings.warnings,
      show (settings.withKey second).apiKey.hasKeyForm = true from
        secondIssued.hasKeyForm,
      show (settings.withKey first).apiKey.hasKeyForm = true from
        firstIssued.hasKeyForm]
    rfl
  rw [Settings.review, Settings.review, sameOutcome, sameWarnings]

/-- No rendering of settings, nor a check of them, tells two keys apart that agree
in what may be seen of them, and every key can be rendered. -/
theorem renderings_hide_secret (settings : Settings) (first second : Secret) :
    (∀ identifier, first.IssuedTo identifier → second.IssuedTo identifier →
      first.IsLong → second.IsLong →
      ¬ HoldsPlaceholder first.value.toList →
      ¬ HoldsPlaceholder second.value.toList →
      (settings.withKey first).forLog = (settings.withKey second).forLog ∧
        (settings.withKey first).forDebug =
          (settings.withKey second).forDebug ∧
        (settings.withKey first).review = (settings.withKey second).review) ∧
    (first.value ≠ "" → second.value ≠ "" →
      first.IsMasked → second.IsMasked →
      (settings.withKey first).forLog = (settings.withKey second).forLog ∧
        (settings.withKey first).forDebug =
          (settings.withKey second).forDebug) ∧
    (first.IsLong → second.IsLong →
      '.' ∉ first.value.toList → '.' ∉ second.value.toList →
      first.value.toList.take 2 = second.value.toList.take 2 →
      first.value.toList.rtake 2 = second.value.toList.rtake 2 →
      (settings.withKey first).forLog = (settings.withKey second).forLog) ∧
    ∀ key : Secret, key.partlyOfBytes? = some key.partly := by
  refine ⟨?issued, ?masked, ?undotted, Secret.partlyOfBytes?_eq⟩
  case issued =>
    intro identifier firstIssued secondIssued firstLong secondLong firstPlain
      secondPlain
    exact ⟨Settings.forLog_withKey
        ((firstIssued.partly firstLong).trans
          (secondIssued.partly secondLong).symm),
      Settings.forDebug_withKey,
      Settings.review_withKey firstIssued secondIssued firstPlain secondPlain⟩
  case masked =>
    intro firstNotEmpty secondNotEmpty firstMasked secondMasked
    exact ⟨Settings.forLog_withKey
        ((Secret.partly_masked firstNotEmpty firstMasked).trans
          (Secret.partly_masked secondNotEmpty secondMasked).symm),
      Settings.forDebug_withKey⟩
  case undotted =>
    intro firstLong secondLong firstUndotted secondUndotted sameFront sameBack
    refine Settings.forLog_withKey ?_
    rw [Secret.partly_undotted firstLong firstUndotted,
      Secret.partly_undotted secondLong secondUndotted, sameFront, sameBack]

/-- Keys with more than one full stop, a short one and one that is not ASCII, and
keys with the same ends. -/
theorem awkwardKeys_look_alike :
    let logged := fun key => (Settings.ofKey ⟨key⟩).forLog
    let reviewed := fun key => (Settings.ofKey ⟨key⟩).review
    logged "4f2a9c.one.two." = logged "4f2a9c..three" ∧
      reviewed "4f2a9c.one.two." = reviewed "4f2a9c..three" ∧
      logged "a.secret" = logged "schlüssel.proper" ∧
      logged "abcdefghij" = logged "ab-12345678-ij" := by
  have hide (first second : String) :=
    renderings_hide_secret (Settings.ofKey ⟨""⟩) ⟨first⟩ ⟨second⟩
  have issued := (hide "4f2a9c.one.two." "4f2a9c..three").1 "4f2a9c".toList
    ⟨by decide, by decide, "one.two.".toList, by decide, by decide⟩
    ⟨by decide, by decide, ".three".toList, by decide, by decide⟩
    ⟨by decide, by decide⟩ ⟨by decide, by decide⟩
    (mt HoldsPlaceholder.dollar_mem (by decide))
    (mt HoldsPlaceholder.dollar_mem (by decide))
  have masked := (hide "a.secret" "schlüssel.proper").2.1 (by decide)
    (by decide) (.inl (by decide)) (.inr (by decide))
  have undotted := (hide "abcdefghij" "ab-12345678-ij").2.2.1
    ⟨by decide, by decide⟩ ⟨by decide, by decide⟩ (by decide) (by decide)
    (by decide) (by decide)
  exact ⟨issued.1, issued.2.2, masked.1, undotted⟩

end Parley.Config
