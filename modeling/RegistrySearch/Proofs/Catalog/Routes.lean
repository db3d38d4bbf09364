import RegistrySearch.Proofs.Catalog.Agreement

/-!
# A catalog as text and as a value

Text is checked while it is read, a decoded value part by part. For an array both are the checks of its draft, so they end alike. What is no array is rejected as text. As a value it is taken for the list of its parts: the keys of an object, which are no events, but an object without keys is an empty catalog, and a value that has no parts is not rejected as a catalog at all.
-/

namespace RegistrySearch

/-- The failures that are told as one of the catalog. -/
def CatalogFailure.IsExpected : CatalogFailure → Prop
  | unreadable .notUtf8 => False
  | noParts _ => False
  | _ => True

namespace Catalog

/-- Both end well with the same catalog, or both with a failure of the catalog. -/
def SameOutcome (first second : Except CatalogFailure Catalog) : Prop :=
  (∃ catalog, first = .ok catalog ∧ second = .ok catalog)
    ∨ ∃ failure other, first = .error failure ∧ second = .error other ∧ failure.IsExpected ∧ other.IsExpected

/-- The catalog of the events that were read. -/
def ofEvents (events : Except CatalogFailure (List Event)) : Except CatalogFailure Catalog :=
  events >>= fun events => .ok ⟨events, false⟩

theorem SameOutcome.ofEvents {first second : Draft.Outcome (List Event)} (h : Draft.Agree first second) :
    SameOutcome (ofEvents first) (ofEvents second) := by
  rcases h with ⟨events, rfl, rfl⟩ | ⟨fault, other, rfl, rfl⟩
  · exact .inl ⟨⟨events, false⟩, rfl, rfl⟩
  · exact .inr ⟨.invalid fault, .invalid other, rfl, rfl, trivial, trivial⟩

theorem SameOutcome.exists_error {first : Except CatalogFailure Catalog} {failure : CatalogFailure}
    (h : SameOutcome first (.error failure)) : ∃ other, first = .error other ∧ other.IsExpected := by
  rcases h with ⟨catalog, -, hcatalog⟩ | ⟨other, _, hfirst, -, hexpected, -⟩
  · cases hcatalog
  · exact ⟨other, hfirst, hexpected⟩

theorem SameOutcome.isExpected {first second : Except CatalogFailure Catalog} (h : SameOutcome first second)
    {failure : CatalogFailure} (hfirst : first = .error failure) : failure.IsExpected := by
  subst hfirst
  rcases h with ⟨catalog, hcatalog, -⟩ | ⟨other, _, hother, -, hexpected, -⟩
  · cases hcatalog
  · cases hother
    exact hexpected

theorem sameOutcome_error_iff {failure : CatalogFailure} (hfailure : failure.IsExpected)
    {second : Except CatalogFailure Catalog} :
    SameOutcome (.error failure) second ↔ ∃ other, second = .error other ∧ other.IsExpected := by
  constructor
  · intro h
    rcases h with ⟨catalog, hcatalog, -⟩ | ⟨_, other, -, hsecond, -, hexpected⟩
    · cases hcatalog
    · exact ⟨other, hsecond, hexpected⟩
  · intro h
    obtain ⟨other, hsecond, hexpected⟩ := h
    exact .inr ⟨failure, other, rfl, hsecond, hfailure, hexpected⟩

/-! ### The two routes -/

theorem parse_of_reading {written : Payload} {r : Json.Reading} (h : written.reading? = some r) :
    parse written = ofReading r := by
  cases written with
  | value v =>
      cases v <;> cases h
      rfl
  | text s =>
      cases h
      rfl
  | octets o =>
      cases h
      rfl

variable {r : Json.Reading} {v : Json}

theorem draft_of_value (h : r.value = .ok v) : r.draft.faults = [] ∧ r.draft.value = .ok v ∧ r.clean = true := by
  obtain ⟨read, hread, hrest⟩ := bind_eq_ok.1 h
  obtain ⟨_, hclean, hv⟩ := bind_eq_ok.1 hrest
  cases hv
  exact ⟨r.draft.endsBy_value.eq_nil hread, hread, Draft.closed_of_closing hclean⟩

/-- A complete text is checked as its value is, apart from the faults that are reported. -/
theorem agree_ofReading (hkeys : r.draft.DistinctKeys) (h : r.value = .ok v) :
    SameOutcome (ofReading r) (ofEvents (Draft.ofJson v).asEvents) := by
  obtain ⟨hfaults, hvalue, hclean⟩ := draft_of_value h
  have hread : ofReading r = ofEvents r.draft.asEvents := by
    rw [ofReading, hclean]
    rfl
  rw [hread, ← r.draft.narrow_eq_ofJson hkeys hvalue]
  exact .ofEvents (Draft.agrees_asEvents r.draft hfaults)

theorem asEvents_of_ne_arr (hv : ∀ items, v ≠ .arr items) :
    (Draft.ofJson v).asEvents = .error (.invalid (Fault.here (.unexpected .list v.kind))) := by
  cases v with
  | arr items => exact absurd rfl (hv items)
  | _ => rfl

/-- As text, only an array of objects is a catalog. -/
def IsArrayOfObjects (v : Json) : Prop :=
  ∃ items, v = .arr items ∧ ∀ item ∈ items, ∃ members, item = .obj members

theorem exists_obj_of_asEvent {d : Json} {event : Event} (h : (Draft.ofJson d).asEvent = .ok event) :
    ∃ members, d = .obj members := by
  cases d with
  | obj members => exact ⟨members, rfl⟩
  | _ => cases h

theorem exists_obj_of_itemsFrom {items : List Json} {index : Nat} {events : List Event}
    (h : Draft.itemsFrom Draft.asEvent index (Draft.ofItems items) = .ok events) :
    ∀ item ∈ items, ∃ members, item = .obj members := by
  induction items generalizing index events with
  | nil => exact fun item hitem => absurd hitem List.not_mem_nil
  | cons first rest ih =>
      obtain ⟨event, hevent, hrest⟩ := bind_eq_ok.1 h
      obtain ⟨others, hothers, -⟩ := bind_eq_ok.1 hrest
      rw [List.forall_mem_cons]
      exact ⟨exists_obj_of_asEvent (mapError_eq_ok.1 hevent), ih hothers⟩

theorem isArrayOfObjects_of_asEvents {events : List Event} (h : (Draft.ofJson v).asEvents = .ok events) :
    IsArrayOfObjects v := by
  cases v with
  | arr items =>
      obtain ⟨events, hevents, -⟩ := bind_eq_ok.1 h
      exact ⟨items, rfl, exists_obj_of_itemsFrom hevents⟩
  | _ => cases h

/-! ### Where they agree -/

/-- A decoded value that is no array is rejected as a catalog if it has parts, and only then. -/
theorem rejects_value_iff (harray : ∀ items, v ≠ .arr items) (hstring : ∀ s, v ≠ .str s) :
    (∃ failure, parse (.value v) = .error failure ∧ failure.IsExpected)
      ↔ ∃ member members, v = .obj (member :: members) := by
  constructor
  · intro h
    obtain ⟨failure, hparse, hexpected⟩ := h
    cases v with
    | arr items => exact absurd rfl (harray items)
    | str s => exact absurd rfl (hstring s)
    | obj members =>
        cases members with
        | nil => cases hparse
        | cons member members => exact ⟨member, members, rfl⟩
    | _ =>
        cases hparse
        cases hexpected
  · rintro ⟨member, members, rfl⟩
    exact ⟨_, rfl, trivial⟩

/-- Text without repeated keys and the value that it decodes to are the same catalog or both rejected, unless the value is an object without members or has no parts. The text is a catalog only if the value is an array of objects, and is rejected as one otherwise. -/
theorem routes_agree_iff (written : Payload) (hreading : written.reading? = some r) (hkeys : r.draft.DistinctKeys)
    (hdecoded : written.decoded = .ok v) (hstring : ∀ s, v ≠ .str s) :
    (SameOutcome (parse written) (parse (.value v))
        ↔ (∃ items, v = .arr items) ∨ ∃ member members, v = .obj (member :: members))
      ∧ ((∃ catalog, parse written = .ok catalog) → IsArrayOfObjects v)
      ∧ ∀ failure, parse written = .error failure → failure.IsExpected := by
  have hvalue : r.value = .ok v := by rw [← Payload.decoded_of_reading hreading, hdecoded]
  have hsame : SameOutcome (parse written) (ofEvents (Draft.ofJson v).asEvents) := by
    rw [parse_of_reading hreading]
    exact agree_ofReading hkeys hvalue
  refine ⟨?_, ?_, fun failure hfailure => hsame.isExpected hfailure⟩
  · by_cases harray : ∃ items, v = .arr items
    · obtain ⟨items, rfl⟩ := harray
      exact iff_of_true hsame (.inl ⟨items, rfl⟩)
    · have hne : ∀ items, v ≠ .arr items := fun items heq => harray ⟨items, heq⟩
      rw [asEvents_of_ne_arr hne] at hsame
      obtain ⟨failure, hwritten, hexpected⟩ := hsame.exists_error
      -- The text is rejected, so the routes agree where the value is rejected too.
      rw [hwritten, sameOutcome_error_iff hexpected, rejects_value_iff hne hstring, or_iff_right harray]
  · rintro ⟨catalog, hcatalog⟩
    rw [hcatalog] at hsame
    rcases hsame with ⟨_, -, hevents⟩ | ⟨_, _, herror, -⟩
    · obtain ⟨events, hread, -⟩ := bind_eq_ok.1 hevents
      exact isArrayOfObjects_of_asEvents hread
    · cases herror

/-- A catalog with an integer that does not fit in 64 bits, where nothing asks for it. -/
def birthText : String :=
  "[\x7b\"id\":\"birth\",\"version\":18446744073709551616,\"declaration\":\x7b\"pages\":[]\x7d\x7d]"

def birthValue : Json :=
  .arr [.obj [("id", .str "birth"), ("version", .int 18446744073709551616), ("declaration", .obj [("pages", .arr [])])]]

theorem routes_agree_birthText :
    (Json.reading (Json.symbols birthText)).draft.DistinctKeys ∧ (Payload.text birthText).decoded = .ok birthValue
      ∧ parse (.text birthText) = .ok ⟨[⟨"birth", none, [], []⟩], false⟩
      ∧ SameOutcome (parse (.text birthText)) (parse (.value birthValue)) := by
  have hstring : ∀ s, birthValue ≠ .str s := by
    intro s h
    cases h
  have hdecoded : (Payload.text birthText).decoded = .ok birthValue := by decide +kernel
  have hroutes := routes_agree_iff (.text birthText) rfl (by decide +kernel) hdecoded hstring
  refine ⟨?_, hdecoded, ?_, hroutes.1.2 (.inl ⟨_, rfl⟩)⟩ <;> decide +kernel

/-- An object without members is an empty catalog as a value and none as text. -/
theorem routes_differ_emptyObject :
    (Payload.text "\x7b\x7d").decoded = .ok (.obj []) ∧ parse (.value (.obj [])) = .ok ⟨[], false⟩
      ∧ parse (.text "\x7b\x7d") = .error (.invalid (Fault.here (.unexpected .list .map)))
      ∧ parse (.value .null) = .error (.noParts .null) ∧ ¬ (CatalogFailure.noParts .null).IsExpected := by
  refine ⟨?_, rfl, ?_, rfl, id⟩ <;> decide +kernel

end Catalog

end RegistrySearch
