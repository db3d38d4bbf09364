import RegistrySearch.Payload.Basic
import RegistrySearch.Proofs.Except
import RegistrySearch.Proofs.Json.Members

/-!
# Drafts and values

The value of a draft has no repeated keys, because a key that comes again only replaces a value. A value without repeated keys is the value of its own draft. So text decodes to values without repeated keys, and only a payload that is decoded already can bring some.

The other way, a text without repeated keys is the draft of its value, but for the integers that do not fit in 64 bits (`Draft.narrow`).
-/

namespace RegistrySearch

namespace Draft

theorem closed_of_closing {closed : Bool} {u : Unit} (h : closing closed = .ok u) : closed = true := by
  cases closed with
  | true => rfl
  | false => cases h

/-! ### The value of a draft -/

mutual

theorem distinctKeys_of_value : (d : Draft) → {v : Json} → d.value = .ok v → v.DistinctKeys
  | null, _, h => by cases h; trivial
  | bool _, _, h => by cases h; trivial
  | int _, _, h => by cases h; trivial
  | wideInt _, _, h => by cases h; trivial
  | float _, _, h => by cases h; trivial
  | str (some _), _, h => by cases h; trivial
  | str none, _, h => by cases h
  | brokenString, _, h => by cases h
  | broken, _, h => by cases h
  | arr items closed, _, h => by
      obtain ⟨values, hvalues, hrest⟩ := bind_eq_ok.1 h
      obtain ⟨_, _, hv⟩ := bind_eq_ok.1 hrest
      cases hv
      exact distinctKeys_of_itemValues items hvalues
  | obj members closed, _, h => by
      obtain ⟨values, hvalues, hrest⟩ := bind_eq_ok.1 h
      obtain ⟨_, _, hv⟩ := bind_eq_ok.1 hrest
      cases hv
      exact distinctKeys_of_memberValues members Json.distinctKeys_nil hvalues

theorem distinctKeys_of_itemValues : (items : List Draft) → {values : List Json} → itemValues items = .ok values →
    (Json.arr values).DistinctKeys
  | [], _, h => by cases h; trivial
  | item :: rest, _, h => by
      obtain ⟨v, hv, hrest⟩ := bind_eq_ok.1 h
      obtain ⟨vs, hvs, hvalues⟩ := bind_eq_ok.1 hrest
      cases hvalues
      exact ⟨distinctKeys_of_value item hv, distinctKeys_of_itemValues rest hvs⟩

theorem distinctKeys_of_memberValues : (members : List (Option String × Draft)) →
    {before after : List (String × Json)} → (Json.obj before).DistinctKeys →
    memberValues before members = .ok after → (Json.obj after).DistinctKeys
  | [], _, _, hbefore, h => by cases h; exact hbefore
  | (none, _) :: _, _, _, _, h => by cases h
  | (some key, d) :: rest, _, _, hbefore, h => by
      obtain ⟨v, hv, hrest⟩ := bind_eq_ok.1 h
      exact distinctKeys_of_memberValues rest (hbefore.put (distinctKeys_of_value d hv)) hrest

end

/-! ### The draft of a value -/

mutual

theorem value_ofJson : (v : Json) → v.DistinctKeys → (ofJson v).value = .ok v
  | .null, _ => rfl
  | .bool _, _ => rfl
  | .int _, _ => rfl
  | .float _, _ => rfl
  | .str _, _ => rfl
  | .arr items, h => by
      rw [ofJson, value, itemValues_ofItems items h]
      rfl
  | .obj members, h => by
      rw [ofJson, value, memberValues_ofMembers members [] h]
      rfl

theorem itemValues_ofItems : (items : List Json) → (Json.arr items).DistinctKeys →
    itemValues (ofItems items) = .ok items
  | [], _ => rfl
  | item :: rest, h => by
      rw [ofItems, itemValues, value_ofJson item h.1, itemValues_ofItems rest h.2]
      rfl

theorem memberValues_ofMembers : (members before : List (String × Json)) →
    (Json.obj (before ++ members)).DistinctKeys →
    memberValues before (ofMembers members) = .ok (before ++ members)
  | [], before, _ => by
      rw [List.append_nil]
      rfl
  | (key, v) :: rest, before, h => by
      obtain ⟨hnodup, hvalues⟩ := Json.distinctKeys_obj.1 h
      have hnew : key ∉ before.map (·.1) := by
        intro hmem
        rw [List.map_append, List.nodup_append] at hnodup
        exact hnodup.2.2 key hmem key List.mem_cons_self rfl
      have hv : v.DistinctKeys := hvalues (key, v) (List.mem_append_right _ List.mem_cons_self)
      have happend : before ++ (key, v) :: rest = before ++ [(key, v)] ++ rest := by
        rw [List.append_assoc, List.singleton_append]
      rw [ofMembers, memberValues, value_ofJson v hv, happend]
      change memberValues (Json.put before key v) (ofMembers rest) = _
      rw [Json.put_of_not_mem hnew]
      exact memberValues_ofMembers rest _ (happend ▸ h)

end

/-! ### Texts without repeated keys -/

mutual

/-- No object of the text repeats a key. -/
def DistinctKeys : Draft → Prop
  | arr items _ => DistinctKeysItems items
  | obj members _ => (members.map (·.1)).Nodup ∧ DistinctKeysMembers members
  | _ => True

def DistinctKeysItems : List Draft → Prop
  | [] => True
  | item :: rest => DistinctKeys item ∧ DistinctKeysItems rest

def DistinctKeysMembers : List (Option String × Draft) → Prop
  | [] => True
  | (_, d) :: rest => DistinctKeys d ∧ DistinctKeysMembers rest

end

mutual

def decideDistinctKeys : (d : Draft) → Decidable d.DistinctKeys
  | null | bool _ | int _ | wideInt _ | float _ | str _ | brokenString | broken => .isTrue trivial
  | arr items _ => decideDistinctKeysItems items
  | obj members _ =>
    haveI := decideDistinctKeysMembers members
    inferInstanceAs (Decidable ((members.map (·.1)).Nodup ∧ DistinctKeysMembers members))

def decideDistinctKeysItems : (items : List Draft) → Decidable (DistinctKeysItems items)
  | [] => .isTrue trivial
  | item :: rest =>
    haveI := decideDistinctKeys item
    haveI := decideDistinctKeysItems rest
    inferInstanceAs (Decidable (DistinctKeys item ∧ DistinctKeysItems rest))

def decideDistinctKeysMembers : (members : List (Option String × Draft)) → Decidable (DistinctKeysMembers members)
  | [] => .isTrue trivial
  | (_, d) :: rest =>
    haveI := decideDistinctKeys d
    haveI := decideDistinctKeysMembers rest
    inferInstanceAs (Decidable (DistinctKeys d ∧ DistinctKeysMembers rest))

end

instance : DecidablePred DistinctKeys := decideDistinctKeys

mutual

/-- The draft with every integer as one that fits. -/
def narrow : Draft → Draft
  | wideInt n => int n
  | arr items closed => arr (narrowItems items) closed
  | obj members closed => obj (narrowMembers members) closed
  | d => d

def narrowItems : List Draft → List Draft
  | [] => []
  | item :: rest => narrow item :: narrowItems rest

def narrowMembers : List (Option String × Draft) → List (Option String × Draft)
  | [] => []
  | (key, d) :: rest => (key, narrow d) :: narrowMembers rest

end

theorem ofMembers_append (members others : List (String × Json)) :
    ofMembers (members ++ others) = ofMembers members ++ ofMembers others := by
  induction members with
  | nil => rfl
  | cons member members ih => rw [List.cons_append, ofMembers, ofMembers, ih, List.cons_append]

mutual

/-- What a text without repeated keys and its value differ in is the width of integers. -/
theorem narrow_eq_ofJson : (d : Draft) → d.DistinctKeys → {v : Json} → d.value = .ok v → d.narrow = ofJson v
  | null, _, _, h => by cases h; rfl
  | bool _, _, _, h => by cases h; rfl
  | int _, _, _, h => by cases h; rfl
  | wideInt _, _, _, h => by cases h; rfl
  | float _, _, _, h => by cases h; rfl
  | str (some _), _, _, h => by cases h; rfl
  | str none, _, _, h => by cases h
  | brokenString, _, _, h => by cases h
  | broken, _, _, h => by cases h
  | arr items closed, hkeys, _, h => by
      obtain ⟨values, hvalues, hrest⟩ := bind_eq_ok.1 h
      obtain ⟨_, hclosing, hv⟩ := bind_eq_ok.1 hrest
      cases hv
      rw [narrow, ofJson, narrowItems_eq_ofItems items hkeys hvalues, closed_of_closing hclosing]
  | obj members closed, hkeys, _, h => by
      obtain ⟨values, hvalues, hrest⟩ := bind_eq_ok.1 h
      obtain ⟨_, hclosing, hv⟩ := bind_eq_ok.1 hrest
      cases hv
      have hmembers := ofMembers_append_narrowMembers members hkeys.1 hkeys.2 (fun _ _ => List.not_mem_nil) hvalues
      rw [narrow, ofJson, ← hmembers, closed_of_closing hclosing]
      rfl

theorem narrowItems_eq_ofItems : (items : List Draft) → DistinctKeysItems items → {values : List Json} →
    itemValues items = .ok values → narrowItems items = ofItems values
  | [], _, _, h => by cases h; rfl
  | item :: rest, hkeys, _, h => by
      obtain ⟨v, hv, hrest⟩ := bind_eq_ok.1 h
      obtain ⟨vs, hvs, hvalues⟩ := bind_eq_ok.1 hrest
      cases hvalues
      rw [narrowItems, ofItems, narrow_eq_ofJson item hkeys.1 hv, narrowItems_eq_ofItems rest hkeys.2 hvs]

theorem ofMembers_append_narrowMembers : (members : List (Option String × Draft)) → (members.map (·.1)).Nodup →
    DistinctKeysMembers members → {before after : List (String × Json)} →
    (∀ key, some key ∈ members.map (·.1) → key ∉ before.map (·.1)) → memberValues before members = .ok after →
    ofMembers before ++ narrowMembers members = ofMembers after
  | [], _, _, _, _, _, h => by
      cases h
      rw [narrowMembers, List.append_nil]
  | (none, _) :: _, _, _, _, _, _, h => by cases h
  | (some key, d) :: rest, hnodup, hkeys, before, after, hnew, h => by
      obtain ⟨v, hv, hrest⟩ := bind_eq_ok.1 h
      obtain ⟨hfresh, hnodup⟩ := List.nodup_cons.1 hnodup
      rw [Json.put_of_not_mem (hnew key List.mem_cons_self)] at hrest
      have hnewRest : ∀ other, some other ∈ rest.map (·.1) → other ∉ (before ++ [(key, v)]).map (·.1) := by
        intro other hother hmem
        rw [List.map_append, List.mem_append] at hmem
        rcases hmem with hbefore | hlast
        · exact hnew other (List.mem_cons_of_mem _ hother) hbefore
        · rw [List.mem_singleton.1 hlast] at hother
          exact hfresh hother
      rw [← ofMembers_append_narrowMembers rest hnodup hkeys.2 hnewRest hrest, ofMembers_append, narrowMembers,
        narrow_eq_ofJson d hkeys.1 hv, List.append_assoc]
      rfl

end

end Draft

/-! ### Payloads -/

namespace Payload

/-- A payload whose value, if it is decoded already, repeats no key. -/
def DistinctKeys : Payload → Prop
  | value v => v.DistinctKeys
  | _ => True

theorem distinctKeys_of_reading {reading : Json.Reading} {v : Json} (h : reading.value = .ok v) : v.DistinctKeys := by
  obtain ⟨read, hread, hrest⟩ := bind_eq_ok.1 h
  obtain ⟨_, _, hv⟩ := bind_eq_ok.1 hrest
  cases hv
  exact Draft.distinctKeys_of_value _ hread

theorem distinctKeys_of_decoded {payload : Payload} (hd : payload.DistinctKeys) {v : Json}
    (h : payload.decoded = .ok v) : v.DistinctKeys := by
  cases payload with
  | value w =>
      cases w with
      | str s => exact distinctKeys_of_reading h
      | _ => cases h; exact hd
  | text s => exact distinctKeys_of_reading h
  | octets o => exact distinctKeys_of_reading h

end Payload

end RegistrySearch
