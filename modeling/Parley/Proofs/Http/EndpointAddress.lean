import Parley.Http.Exchange
import Parley.Proofs.Config.Texts
import Parley.Proofs.Url.Extension

/-!
Contract: where a call is sent to.

The address of a call is written below the base address: the model and the kind
of the call stand in the place of the solidi at its end. It is read as an address
below the base address exactly if the base address is joinable, which admissible
settings do not promise.

Owns: `IsModelName`, `Endpoint.LeadsTo`, when it holds, and a base address with a
query, for which it does not.
-/

namespace Parley.Http

open Parley.Url (Address)
open Parley.Url.Address (Joinable Plain below isDots isOuter)
open Parley.Wire (CallKind)

/-! ## Names in paths -/

/-- Whether a character may be in the name of a model or of a kind of calls. -/
def isNameChar (char : Char) : Bool :=
  char.isAlphanum || char == '_' || char == '-'

/-- Whether a text is a name of ASCII letters, digits and underscores. -/
def IsModelName (model : String) : Prop :=
  model ≠ "" ∧ ∀ char ∈ model.toList, char.isAlphanum = true ∨ char = '_'

theorem isNameChar_ascii {char : Char} (isName : isNameChar char = true) :
    char.toNat < 0x80 := by
  have below {last : Char} (atMost : char ≤ last) (small : last.toNat < 0x80) :
      char.toNat < 0x80 := Nat.lt_of_le_of_lt atMost small
  have isClass : ((((char.isUpper || char.isLower) || char.isDigit) ||
      char == '_') || char == '-') = true := isName
  rw [Bool.or_eq_true, Bool.or_eq_true, Bool.or_eq_true, Bool.or_eq_true,
    beq_iff_eq, beq_iff_eq] at isClass
  rcases isClass with (((isUpper | isLower) | isDigit) | rfl) | rfl
  · exact below (of_decide_eq_true isUpper).2
      (by decide : 'Z'.toNat < 0x80)
  · exact below (of_decide_eq_true (Bool.and_eq_true_iff.mp isLower).2)
      (by decide : 'z'.toNat < 0x80)
  · exact below (of_decide_eq_true (Bool.and_eq_true_iff.mp isDigit).2)
      (by decide : '9'.toNat < 0x80)
  · decide
  · decide

/-- The characters of names mean nothing in an address. -/
theorem isNameChar_plain {char : Char} (isName : isNameChar char = true) :
    isOuter char = false ∧ Address.endsAuthority true char = false ∧
      Url.Percent.inPath char = false ∧ char ≠ '.' ∧ char ≠ '%' := by
  have each : ∀ code < 0x80, isNameChar (Char.ofNat code) = true →
      isOuter (Char.ofNat code) = false ∧
        Address.endsAuthority true (Char.ofNat code) = false ∧
        Url.Percent.inPath (Char.ofNat code) = false ∧
        Char.ofNat code ≠ '.' ∧ Char.ofNat code ≠ '%' := by
    decide
  have found := each char.toNat (isNameChar_ascii isName)
  rw [Char.ofNat_toNat] at found
  exact found isName

/-- A name is a segment that stands for itself. -/
theorem plain_of_name {segment : List Char} (some : segment ≠ [])
    (isName : ∀ char ∈ segment, isNameChar char = true) : Plain segment := by
  obtain ⟨first, rest, rfl⟩ := List.exists_cons_of_ne_nil some
  have startsPlain := isNameChar_plain (isName first List.mem_cons_self)
  have notDots (count : Nat) : isDots count (first :: rest) = false :=
    Address.isDots_cons startsPlain.2.2.2.1 startsPlain.2.2.2.2 rest
  refine ⟨fun char member => (isNameChar_plain (isName char member)).1,
    fun char member => (isNameChar_plain (isName char member)).2.1, ?_,
    notDots 2, notDots 1⟩
  -- No character of a name is written as an escape in a path.
  have kept (char : Char) (member : char ∈ first :: rest) :
      Url.Percent.encodeChar Url.Percent.inPath char = [char] := by
    have isPlain := (isNameChar_plain (isName char member)).2.2.1
    have isAscii := isNameChar_ascii (isName char member)
    rw [Url.Percent.encodeChar, isPlain, if_neg fun escaped => ?_]
    rcases escaped with beyond | escaped
    · omega
    · cases escaped
  rw [Url.Percent.encode, List.flatMap_congr kept]
  exact List.flatMap_singleton' _

/-! ## Calls -/

theorem writePath_pair (first second : List Char) :
    Address.writePath (.segments [first, second]) =
      '/' :: first ++ '/' :: second := by
  rw [Address.writePath, List.flatMap_cons, List.flatMap_cons, List.flatMap_nil,
    List.append_nil]

/-- The text of the address of a call is written below the base address. -/
theorem Endpoint.url_eq_below (endpoint : Endpoint) (kind : CallKind)
    (model : String) :
    endpoint.url kind model =
      below endpoint.baseUrl [model.toList, kind.endpoint.toList] := by
  rw [← String.toList_inj, below, writePath_pair, url, trimSolidi,
    String.toList_append, String.toList_append, String.toList_append,
    String.toList_append, String.toList_ofList, String.toList_ofList,
    String.toList_ofList, List.append_assoc, List.append_assoc, List.append_assoc]
  rfl

/-- Whether the address of calls is an address below the base address whose path
goes on with the model and the kind of the calls. -/
def Endpoint.LeadsTo (endpoint : Endpoint) (kind : CallKind) (model : String) :
    Prop :=
  ∃ base address, Address.parse endpoint.baseUrl = .ok base ∧
    Address.parse (endpoint.url kind model) = .ok address ∧
    address.Extends base
      ('/' :: model.toList ++ '/' :: kind.endpoint.toList)

private theorem kind_plain (kind : CallKind) : Plain kind.endpoint.toList := by
  cases kind with
  | single =>
      have areNames : CallKind.single.endpoint.toList.all isNameChar = true := by
        decide
      exact plain_of_name (by decide) (List.all_eq_true.mp areNames)
  | streamed =>
      have areNames : CallKind.streamed.endpoint.toList.all isNameChar = true := by
        decide
      exact plain_of_name (by decide) (List.all_eq_true.mp areNames)

theorem IsModelName.plain {model : String} (isModel : IsModelName model) :
    Plain model.toList := by
  refine plain_of_name (mt String.toList_eq_nil_iff.mp isModel.1)
    fun char member => ?_
  rcases isModel.2 char member with isAlphanum | rfl
  · rw [isNameChar, isAlphanum]
    rfl
  · rfl

private theorem isHosted_of_web {scheme : String}
    (isWeb : scheme = "http" ∨ scheme = "https") : Address.IsHosted scheme := by
  rcases isWeb with rfl | rfl
  · exact ⟨by decide, by decide⟩
  · exact ⟨by decide, by decide⟩

/-- With an admissible base address, calls lead to the model exactly if the base
address is joinable. -/
theorem Endpoint.leadsTo_iff_joinable {settings : Config.Settings}
    (accepted : settings.validateFields = .ok ()) {model : String}
    (isModel : IsModelName model) (kind : CallKind) (apiKey : String) :
    (Endpoint.mk settings.baseUrl apiKey).LeadsTo kind model ↔
      Joinable settings.baseUrl := by
  obtain ⟨_, _, ⟨base, parsed, isWeb⟩, _⟩ :=
    Config.Settings.validateFields_eq_ok_iff.mp accepted
  have joins := Address.extends_iff_joinable parsed (isHosted_of_web isWeb)
    (List.cons_ne_nil model.toList [kind.endpoint.toList])
    (List.forall_mem_cons.mpr
      ⟨isModel.plain, List.forall_mem_singleton.mpr (kind_plain kind)⟩)
  rw [writePath_pair] at joins
  rw [← joins, LeadsTo, url_eq_below]
  constructor
  · rintro ⟨_, address, alsoParsed, isRead, isBelow⟩
    rw [parsed] at alsoParsed
    cases alsoParsed
    exact ⟨address, isRead, isBelow⟩
  · rintro ⟨address, isRead, isBelow⟩
    exact ⟨base, address, parsed, isRead, isBelow⟩

/-- Settings of a service at this machine, below a path with dots and solidi. -/
def nestedSettings : Config.Settings :=
  .ofTexts "a.b" "http://[::1]/old/../v3//" "glm"

/-- Dots and solidi at the end of a base address do no harm. -/
theorem nestedSettings_leadsTo :
    nestedSettings.validateFields = .ok () ∧ IsModelName "glm" ∧
      (Endpoint.mk nestedSettings.baseUrl "a.b").LeadsTo .streamed "glm" := by
  have accepted : nestedSettings.validateFields = .ok () := by decide
  have isModel : IsModelName "glm" := by
    have areNames : "glm".toList.all Char.isAlphanum = true := by decide
    exact ⟨by decide, fun char member =>
      .inl (List.all_eq_true.mp areNames char member)⟩
  have directory : Address.parse (below nestedSettings.baseUrl [[]]) =
      .ok ⟨"http", none, some (.ipv6 [0, 0, 0, 0, 0, 0, 0, 1]), none,
        .segments ["v3".toList, []], none, none⟩ := by
    decide
  have joinable : Joinable nestedSettings.baseUrl := by
    refine ⟨?_, ?_, fun address isRead => ?_⟩
    · have each : nestedSettings.baseUrl.toList.all
          (fun char => char != '?' && char != '#') = true := by decide
      intro char member
      have isOther := List.all_eq_true.mp each char member
      rw [Bool.and_eq_true, bne_iff_ne, bne_iff_ne] at isOther
      exact isOther
    · intro char isLast
      have ends : (Address.dropIgnored nestedSettings.baseUrl.toList).getLast? =
          some '/' := by decide
      rw [ends] at isLast
      cases isLast
      rfl
    · rw [directory] at isRead
      cases isRead
      decide
  exact ⟨accepted, isModel,
    (Endpoint.leadsTo_iff_joinable accepted isModel .streamed "a.b").mpr joinable⟩

/-- Settings of a service at this machine, with a query in the base address. -/
def queriedSettings : Config.Settings :=
  .ofTexts "a.b" "http://[::1]?x=1" "glm"

/-- Behind a query the model and the kind of a call belong to the query: the call
is sent to the root of the service. -/
theorem queriedSettings_misleads :
    queriedSettings.validateFields = .ok () ∧ IsModelName "glm" ∧
      (∃ address, Address.parse
          ((Endpoint.mk queriedSettings.baseUrl "a.b").url .single "glm") =
            .ok address ∧
        address.target = "/?x=1/glm/invoke".toList) ∧
      ¬ (Endpoint.mk queriedSettings.baseUrl "a.b").LeadsTo .single "glm" := by
  have areNames : "glm".toList.all Char.isAlphanum = true := by decide
  have isRead : Address.parse
      ((Endpoint.mk queriedSettings.baseUrl "a.b").url .single "glm") =
        .ok ⟨"http", none, some (.ipv6 [0, 0, 0, 0, 0, 0, 0, 1]), none,
          .segments [[]], some "x=1/glm/invoke".toList, none⟩ := by
    decide
  refine ⟨by decide, ⟨by decide, fun char member =>
    .inl (List.all_eq_true.mp areNames char member)⟩, ⟨_, isRead, ?_⟩, ?_⟩
  · decide
  · rintro ⟨base, address, _, alsoRead, isBelow⟩
    rw [isRead] at alsoRead
    cases alsoRead
    cases isBelow.query

end Parley.Http
