import RegistrySearch.Proofs.Json.Members
import RegistrySearch.Proofs.Query.Grammar
import RegistrySearch.Query.Payload

/-!
# Reading criteria

A criterion is read from a value exactly if the value spells it in its place: in the place of a declaration field (`Criterion.parse_raw_spells`, `Criterion.parse_raw_eq_ok`) or of a record field (`RecordField.criterion_spells`, `RecordField.criterion_eq_ok`). What is read is always spelled by the value. Conversely, readers check every member of an object and not only the one that is found by its key, so what a value spells is read only if no key is repeated, as none is in a decoded value.

For each reader there are two lemmas, one for either direction. Those of the containers are put together from those of their parts.
-/

namespace RegistrySearch

/-! ### Members and texts -/

theorem Fault.under_eq_ok {α : Type} {step : Step} {outcome : Except Fault α} {x : α} :
    Fault.under step outcome = .ok x ↔ outcome = .ok x :=
  mapError_eq_ok

namespace Members

variable {α : Type} {members : List (String × Json)} {key : String}

theorem check_eq_ok_iff {step : String → Json → Except Fault Unit} :
    check step members = .ok () ↔ ∀ member ∈ members, step member.1 member.2 = .ok () := by
  induction members with
  | nil => exact iff_of_true rfl fun member hmember => absurd hmember List.not_mem_nil
  | cons member members ih =>
      rw [List.forall_mem_cons, check, bind_eq_ok, ← ih]
      constructor
      · intro h
        obtain ⟨_, hstep, hrest⟩ := h
        exact ⟨Fault.under_eq_ok.1 hstep, hrest⟩
      · intro h
        obtain ⟨hstep, hrest⟩ := h
        exact ⟨(), Fault.under_eq_ok.2 hstep, hrest⟩

/-- A model is read in two steps, the check of every member and the reading of the wanted ones. -/
theorem check_bind_eq_ok_iff {step : String → Json → Except Fault Unit} {read : Except Fault α} {x : α} :
    (check step members >>= fun _ => read) = .ok x
      ↔ (∀ member ∈ members, step member.1 member.2 = .ok ()) ∧ read = .ok x := by
  rw [bind_eq_ok, ← check_eq_ok_iff]
  exact ⟨fun ⟨_, hcheck, hread⟩ => ⟨hcheck, hread⟩, fun ⟨hcheck, hread⟩ => ⟨(), hcheck, hread⟩⟩

theorem optional_spells {step : Json → Except Fault (Option α)} {spells : Json → α → Prop} {x : Option α}
    (h : ∀ v, step v = .ok x → Slot spells (some v) x) (hx : optional step members key = .ok x) :
    Slot spells (Json.get? members key) x := by
  unfold optional at hx
  cases hget : Json.get? members key with
  | none =>
      rw [hget] at hx
      cases hx
      exact .absent
  | some v =>
      rw [hget] at hx
      exact h v (Fault.under_eq_ok.1 hx)

theorem optional_eq_ok {step : Json → Except Fault (Option α)} {spells : Json → α → Prop} {x : Option α}
    (h : ∀ v, Json.get? members key = some v → Slot spells (some v) x → step v = .ok x)
    (hx : Slot spells (Json.get? members key) x) : optional step members key = .ok x := by
  unfold optional
  cases hget : Json.get? members key with
  | none =>
      rw [hget] at hx
      cases hx
      rfl
  | some v =>
      rw [hget] at hx
      exact Fault.under_eq_ok.2 (h v hget hx)

end Members

namespace Json

theorem asText_eq_ok_iff {v : Json} {s : String} : v.asText = .ok s ↔ v = .str s := by
  cases v <;> simp [asText]

theorem asTextOrNull_eq_ok_iff {v : Json} {s : Option String} :
    v.asTextOrNull = .ok s ↔ Slot (fun v s => v = .str s) (some v) s := by
  constructor
  · intro h
    cases v with
    | null => cases h; exact .null
    | str s => cases h; exact .given rfl
    | _ => cases h
  · intro h
    cases h with
    | null => rfl
    | given h => cases h; rfl

theorem textsFrom_eq_ok_iff {items : List Json} {index : Nat} {texts : List String} :
    textsFrom index items = .ok texts ↔ items = texts.map .str := by
  induction items generalizing index texts with
  | nil => cases texts <;> simp [textsFrom]
  | cons item items ih =>
      rw [textsFrom, bind_eq_ok]
      constructor
      · intro h
        obtain ⟨s, hs, hrest⟩ := h
        obtain ⟨others, hothers, htexts⟩ := bind_eq_ok.1 hrest
        cases htexts
        rw [asText_eq_ok_iff.1 (Fault.under_eq_ok.1 hs), ih.1 hothers]
        rfl
      · intro h
        cases texts with
        | nil => cases h
        | cons s others =>
            rw [List.map_cons, List.cons.injEq] at h
            refine ⟨s, Fault.under_eq_ok.2 (asText_eq_ok_iff.2 h.1), ?_⟩
            exact bind_eq_ok.2 ⟨others, ih.2 h.2, rfl⟩

theorem asTexts_eq_ok_iff {v : Json} {texts : List String} : v.asTexts = .ok texts ↔ v = strings texts := by
  cases v with
  | arr items => rw [asTexts, textsFrom_eq_ok_iff, strings, arr.injEq]
  | _ => simp [asTexts, strings]

end Json

namespace Members

variable {members : List (String × Json)} {key : String}

theorem required_eq_ok_iff {α : Type} {step : Json → Except Fault α} {x : α} {v : α → Json}
    (h : ∀ w, step w = .ok x ↔ w = v x) :
    required step members key = .ok x ↔ Json.get? members key = some (v x) := by
  unfold required
  cases Json.get? members key with
  | none => simp
  | some w => rw [Fault.under_eq_ok, h w, Option.some.injEq]

theorem required_asText_iff {s : String} :
    required Json.asText members key = .ok s ↔ Json.get? members key = some (.str s) :=
  required_eq_ok_iff fun _ => Json.asText_eq_ok_iff

theorem required_asTexts_iff {texts : List String} :
    required Json.asTexts members key = .ok texts ↔ Json.get? members key = some (Json.strings texts) :=
  required_eq_ok_iff fun _ => Json.asTexts_eq_ok_iff

end Members

/-! ### Criteria -/

namespace Variant

theorem tag_injective : Function.Injective tag := by
  intro first second
  cases first <;> cases second <;> decide

theorem ofTag?_eq_some_iff {allowed : List Variant} {tag : String} {variant : Variant} :
    ofTag? allowed tag = some variant ↔ variant ∈ allowed ∧ variant.tag = tag := by
  unfold ofTag?
  constructor
  · intro h
    have htag := List.find?_some h
    exact ⟨List.mem_of_find?_eq_some h, beq_iff_eq.1 htag⟩
  · intro h
    obtain ⟨hmem, rfl⟩ := h
    cases hfind : allowed.find? fun other => other.tag == variant.tag with
    | none => exact absurd (beq_self_eq_true variant.tag) (List.find?_eq_none.1 hfind variant hmem)
    | some found =>
        have htag := List.find?_some hfind
        rw [tag_injective (beq_iff_eq.1 htag)]

end Variant

namespace Criterion

variable {members : List (String × Json)} {criterion : Criterion} {variant : Variant}

theorem ofChecked_eq_ok_iff :
    ofChecked variant members = .ok criterion
      ↔ criterion.variant? = some variant ∧ criterion.SpelledBy members := by
  constructor
  · intro h
    cases variant with
    | exact =>
        obtain ⟨term, hterm, hcriterion⟩ := bind_eq_ok.1 h
        cases hcriterion
        exact ⟨rfl, Members.required_asText_iff.1 hterm⟩
    | fuzzy =>
        obtain ⟨term, hterm, hcriterion⟩ := bind_eq_ok.1 h
        cases hcriterion
        exact ⟨rfl, Members.required_asText_iff.1 hterm⟩
    | anyOf =>
        obtain ⟨terms, hterms, hcriterion⟩ := bind_eq_ok.1 h
        cases hcriterion
        exact ⟨rfl, Members.required_asTexts_iff.1 hterms⟩
    | range =>
        obtain ⟨gte, hgte, hrest⟩ := bind_eq_ok.1 h
        obtain ⟨lte, hlte, hcriterion⟩ := bind_eq_ok.1 hrest
        cases hcriterion
        exact ⟨rfl, Members.required_asText_iff.1 hgte, Members.required_asText_iff.1 hlte⟩
    | within =>
        obtain ⟨location, hlocation, hcriterion⟩ := bind_eq_ok.1 h
        cases hcriterion
        exact ⟨rfl, Members.required_asText_iff.1 hlocation⟩
  · intro h
    obtain ⟨hvariant, h⟩ := h
    cases criterion with
    | exact term =>
        cases hvariant
        exact bind_eq_ok.2 ⟨term, Members.required_asText_iff.2 h, rfl⟩
    | fuzzy term =>
        cases hvariant
        exact bind_eq_ok.2 ⟨term, Members.required_asText_iff.2 h, rfl⟩
    | anyOf terms =>
        cases hvariant
        exact bind_eq_ok.2 ⟨terms, Members.required_asTexts_iff.2 h, rfl⟩
    | range gte lte =>
        cases hvariant
        refine bind_eq_ok.2 ⟨gte, Members.required_asText_iff.2 h.1, ?_⟩
        exact bind_eq_ok.2 ⟨lte, Members.required_asText_iff.2 h.2, rfl⟩
    | within location =>
        cases hvariant
        exact bind_eq_ok.2 ⟨location, Members.required_asText_iff.2 h, rfl⟩
    | raw value => exact h.elim

/-- The check of the tag, where the variant was not chosen by it. -/
theorem checkMember_type_eq_ok_iff {chosenByTag : Bool} {value : Json} :
    checkMember variant chosenByTag "type" value = .ok () ↔ (chosenByTag = false → value = .str variant.tag) := by
  unfold checkMember
  rw [if_pos rfl]
  cases chosenByTag with
  | true => simp
  | false =>
      cases value with
      | str tag =>
          by_cases htag : tag = variant.tag
          · simp [htag]
          · simp [htag]
      | _ => simp

/-- Where the members of a criterion are in their places, only its tag is left to check. -/
theorem checkMember_eq_ok (hvariant : criterion.variant? = some variant) (h : criterion.SpelledBy members)
    {chosenByTag : Bool} {key : String} {value : Json} (hkey : key ≠ "type")
    (hget : Json.get? members key = some value) : checkMember variant chosenByTag key value = .ok () := by
  unfold checkMember
  rw [if_neg hkey]
  split
  · obtain ⟨term, rfl⟩ := variant?_eq_exact.1 hvariant
    cases h.symm.trans hget
    rfl
  · obtain ⟨term, rfl⟩ := variant?_eq_fuzzy.1 hvariant
    cases h.symm.trans hget
    rfl
  · obtain ⟨terms, rfl⟩ := variant?_eq_anyOf.1 hvariant
    cases h.symm.trans hget
    rw [seqRight_eq_ok]
    exact ⟨⟨terms, Json.asTexts_eq_ok_iff.2 rfl⟩, rfl⟩
  · obtain ⟨gte, lte, rfl⟩ := variant?_eq_range.1 hvariant
    cases h.1.symm.trans hget
    rfl
  · obtain ⟨gte, lte, rfl⟩ := variant?_eq_range.1 hvariant
    cases h.2.symm.trans hget
    rfl
  · obtain ⟨location, rfl⟩ := variant?_eq_within.1 hvariant
    cases h.symm.trans hget
    rfl
  · rfl

theorem ofMembers_spells {chosenByTag : Bool} (h : ofMembers variant chosenByTag members = .ok criterion) :
    (chosenByTag = false → ∀ tag, Json.get? members "type" = some tag → tag = .str variant.tag)
      ∧ criterion.variant? = some variant ∧ criterion.SpelledBy members := by
  unfold ofMembers at h
  rw [Members.check_bind_eq_ok_iff, ofChecked_eq_ok_iff] at h
  obtain ⟨hcheck, hcriterion⟩ := h
  refine ⟨fun hchosen tag htag => ?_, hcriterion⟩
  exact checkMember_type_eq_ok_iff.1 (hcheck _ (Json.mem_of_get? htag)) hchosen

theorem ofMembers_eq_ok (hd : (Json.obj members).DistinctKeys) {chosenByTag : Bool}
    (htype : chosenByTag = false → ∀ tag, Json.get? members "type" = some tag → tag = .str variant.tag)
    (hvariant : criterion.variant? = some variant) (hspelled : criterion.SpelledBy members) :
    ofMembers variant chosenByTag members = .ok criterion := by
  unfold ofMembers
  rw [Members.check_bind_eq_ok_iff, ofChecked_eq_ok_iff]
  refine ⟨?_, hvariant, hspelled⟩
  intro member hmember
  obtain ⟨key, value⟩ := member
  have hget := Json.get?_of_mem (Json.distinctKeys_obj.1 hd).1 hmember
  by_cases hkey : key = "type"
  · subst hkey
    exact checkMember_type_eq_ok_iff.2 fun hchosen => htype hchosen value hget
  · exact checkMember_eq_ok hvariant hspelled hkey hget

theorem ofTagged_spells {allowed : List Variant} (h : ofTagged allowed members = .ok criterion) :
    (Form.tagged allowed).Spells (.obj members) criterion := by
  unfold ofTagged at h
  split at h
  · cases h
  · rename_i tag htype
    split at h
    · rename_i variant hvariant
      obtain ⟨hallowed, rfl⟩ := Variant.ofTag?_eq_some_iff.1 hvariant
      exact ⟨members, variant, rfl, ⟨hallowed, htype⟩, (ofMembers_spells h).2⟩
    · cases h
  · cases h

theorem ofTagged_eq_ok (hd : (Json.obj members).DistinctKeys) {allowed : List Variant}
    (h : (Form.tagged allowed).Spells (.obj members) criterion) : ofTagged allowed members = .ok criterion := by
  obtain ⟨_, variant, hobj, ⟨hallowed, htype⟩, hvariant, hspelled⟩ := h
  cases hobj
  have htag := Variant.ofTag?_eq_some_iff.2 ⟨hallowed, rfl⟩
  simp only [ofTagged, htype, htag]
  exact ofMembers_eq_ok hd nofun hvariant hspelled

theorem ofMembers_single_spells (h : ofMembers variant false members = .ok criterion) :
    (Form.single variant).Spells (.obj members) criterion := by
  obtain ⟨htype, hspelled⟩ := ofMembers_spells h
  exact ⟨members, variant, rfl, ⟨rfl, htype rfl⟩, hspelled⟩

theorem ofMembers_single_eq_ok (hd : (Json.obj members).DistinctKeys)
    (h : (Form.single variant).Spells (.obj members) criterion) :
    ofMembers variant false members = .ok criterion := by
  obtain ⟨_, _, hobj, ⟨rfl, htype⟩, hvariant, hspelled⟩ := h
  cases hobj
  exact ofMembers_eq_ok hd (fun _ => htype) hvariant hspelled

/-- A declaration field reports other failures than a record field does, but it takes the same criteria. -/
theorem parse_obj_eq_ok_iff {id : String} :
    (raw (.obj members)).parse id = .ok criterion ↔ ofTagged Variant.field members = .ok criterion := by
  unfold parse ofTagged
  simp only [tag, rawTag]
  cases Json.get? members "type" with
  | none => simp
  | some v =>
      cases v with
      | str tag =>
          simp only [Option.getD_some]
          cases Variant.ofTag? Variant.field tag with
          | none => simp [Fault.under_eq_ok]
          | some variant => exact mapError_eq_ok
      | _ => simp [Fault.under_eq_ok]

theorem parse_raw_spells {v : Json} {id : String} (h : (raw v).parse id = .ok criterion) :
    Form.field.Spells v criterion := by
  cases v with
  | obj members => exact ofTagged_spells (parse_obj_eq_ok_iff.1 h)
  | _ => cases h

theorem parse_raw_eq_ok {v : Json} (hd : v.DistinctKeys) {id : String} (h : Form.field.Spells v criterion) :
    (raw v).parse id = .ok criterion := by
  have hobj := h
  obtain ⟨members, _, rfl, -⟩ := hobj
  exact parse_obj_eq_ok_iff.2 (ofTagged_eq_ok hd h)

end Criterion

/-! ### Record fields -/

namespace RecordField

theorem wireName_of_ofWireName? {key : String} {field : RecordField} (h : ofWireName? key = some field) :
    field.wireName = key := by
  unfold ofWireName? at h
  have hkey := List.find?_some h
  exact beq_iff_eq.1 hkey

theorem criterion_spells {field : RecordField} {v : Json} {c : Option Criterion} (h : field.criterion v = .ok c) :
    Slot field.written.2.Spells (some v) c := by
  rw [written_eq]
  cases v with
  | null => cases h; exact .null
  | obj members =>
      unfold criterion at h
      cases hrole : field.role with
      | identifier =>
          simp only [hrole, map_eq_ok] at h
          obtain ⟨criterion, hcriterion, rfl⟩ := h
          exact .given (Criterion.ofMembers_single_spells hcriterion)
      | _ =>
          simp only [hrole, map_eq_ok] at h
          obtain ⟨criterion, hcriterion, rfl⟩ := h
          exact .given (Criterion.ofTagged_spells hcriterion)
  | _ => cases h

theorem criterion_eq_ok {field : RecordField} {v : Json} (hd : v.DistinctKeys) {c : Option Criterion}
    (h : Slot field.written.2.Spells (some v) c) : field.criterion v = .ok c := by
  rw [written_eq] at h
  cases h with
  | null => rfl
  | given h =>
      have hobj := h
      obtain ⟨members, _, rfl, -⟩ := hobj
      unfold criterion
      cases hrole : field.role with
      | identifier =>
          rw [hrole] at h
          exact map_eq_ok.2 ⟨_, Criterion.ofMembers_single_eq_ok hd h, rfl⟩
      | _ =>
          rw [hrole] at h
          exact map_eq_ok.2 ⟨_, Criterion.ofTagged_eq_ok hd h, rfl⟩

end RecordField

end RegistrySearch
