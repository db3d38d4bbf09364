import RegistrySearch.Payload.Basic
import RegistrySearch.Proofs.Except
import RegistrySearch.Proofs.Text.Utf8

/-!
# Faults in the order of the text

Everything that is wrong with a text up to the place where it stops being JSON: the strings with octets that are not UTF-8, in their order, and at last the break itself. A reader that takes the whole value reports the first of these. A text of characters has no string of the former kind, so its only fault is that it breaks off.
-/

namespace RegistrySearch

namespace Draft

/-- The fault of a container that is not closed. -/
def openFaults (closed : Bool) : List TextFault :=
  if closed then [] else [.notJson]

mutual

def faults : Draft → List TextFault
  | str none => [.notUtf8]
  | brokenString => [.notJson]
  | broken => [.notJson]
  | arr items closed => itemFaults items ++ openFaults closed
  | obj members closed => memberFaults members ++ openFaults closed
  | _ => []

def itemFaults : List Draft → List TextFault
  | [] => []
  | item :: rest => item.faults ++ itemFaults rest

def memberFaults : List (Option String × Draft) → List TextFault
  | [] => []
  | (none, d) :: rest => .notUtf8 :: (d.faults ++ memberFaults rest)
  | (some _, d) :: rest => d.faults ++ memberFaults rest

end

theorem endsBy_close {α : Type} (closed : Bool) (value : α) :
    EndsBy (closing closed >>= fun _ => .ok value) (openFaults closed) := by
  cases closed <;> rfl

mutual

theorem endsBy_value : (d : Draft) → EndsBy d.value d.faults
  | null => .ok _
  | bool _ => .ok _
  | int _ => .ok _
  | wideInt _ => .ok _
  | float _ => .ok _
  | str (some _) => .ok _
  | str none => .error ..
  | brokenString => .error ..
  | broken => .error ..
  | arr items closed => (endsBy_itemValues items).bind fun values => endsBy_close closed (Json.arr values)
  | obj members closed => (endsBy_memberValues members []).bind fun values => endsBy_close closed (Json.obj values)

theorem endsBy_itemValues : (items : List Draft) → EndsBy (itemValues items) (itemFaults items)
  | [] => .ok _
  | item :: rest => (endsBy_value item).bind fun value => by
      rw [← List.append_nil (itemFaults rest)]
      exact (endsBy_itemValues rest).bind fun values => .ok (value :: values)

theorem endsBy_memberValues : (members : List (Option String × Draft)) → (before : List (String × Json)) →
    EndsBy (memberValues before members) (memberFaults members)
  | [], _ => .ok _
  | (none, _) :: _, _ => .error ..
  | (some key, d) :: rest, before => (endsBy_value d).bind fun value =>
      endsBy_memberValues rest (Json.put before key value)

end

end Draft

namespace Json

/-- The faults of a whole text. What follows its value is one at the end. -/
def Reading.faults (r : Reading) : List TextFault :=
  r.draft.faults ++ Draft.openFaults r.clean

theorem Reading.endsBy_value (r : Reading) : EndsBy r.value r.faults :=
  r.draft.endsBy_value.bind fun value => Draft.endsBy_close r.clean value

/-! ### Texts of characters -/

/-- No string that was read is cut off by a stray octet, and none is left for what follows. -/
structure OfCharacters (faults : List TextFault) (rest : Option (List Symbol)) : Prop where
  faults : .notUtf8 ∉ faults
  rest : ∀ after, rest = some after → none ∉ after

variable {s : List Symbol}

theorem none_notMem_skipSpace (h : none ∉ s) : none ∉ skipSpace s :=
  fun hmem => h ((List.dropWhile_sublist _).subset hmem)

theorem none_notMem_digits (h : none ∉ s) : none ∉ (digits s).2 :=
  fun hmem => h ((List.dropWhile_sublist _).subset hmem)

theorem none_notMem_tail {first : Symbol} (h : none ∉ first :: s) : none ∉ s :=
  fun hmem => h (List.mem_cons_of_mem _ hmem)

/-- The string has characters only, and so has what follows it. -/
def BodyOfCharacters (body : Option (Option (List Char) × List Symbol)) : Prop :=
  ∀ content rest, body = some (content, rest) → content ≠ none ∧ none ∉ rest

theorem bodyOfCharacters_none : BodyOfCharacters none := by
  intro content rest h
  cases h

theorem BodyOfCharacters.cons {body : Option (Option (List Char) × List Symbol)} (h : BodyOfCharacters body) (c : Char) :
    BodyOfCharacters (consContent c body) := by
  intro content rest hbody
  obtain ⟨⟨tail, after⟩, htail, heq⟩ := Option.map_eq_some_iff.1 hbody
  cases heq
  obtain ⟨hcontent, hrest⟩ := h tail rest htail
  exact ⟨fun hnone => hcontent (Option.map_eq_none_iff.1 hnone), hrest⟩

theorem bodyOfCharacters_stringBody (h : none ∉ s) : BodyOfCharacters (stringBody s) := by
  -- Of the other cases, those that the default takes have no body at all.
  fun_induction stringBody s with
  | case2 rest =>
      intro content after hbody
      cases hbody
      exact ⟨Option.some_ne_none _, none_notMem_tail h⟩
  | case6 a b c d high _ _ _ e f g i rest low _ _ ih =>
      refine (ih fun hmem => h ?_).cons _
      simp [hmem]
  | case9 a b c d rest high _ _ _ ih =>
      refine (ih fun hmem => h ?_).cons _
      simp [hmem]
  | case10 e rest _ c _ ih => exact (ih (none_notMem_tail (none_notMem_tail h))).cons c
  | case13 rest _ => exact absurd List.mem_cons_self h
  | case15 c rest _ _ _ _ _ ih => exact (ih (none_notMem_tail h)).cons c
  | _ => exact bodyOfCharacters_none

/-! ### Numbers and words -/

theorem none_notMem_fraction {ds : List Char} {after : List Symbol} (h : none ∉ s)
    (hfraction : fraction? s = some (ds, after)) : none ∉ after := by
  unfold fraction? at hfraction
  split at hfraction
  · rename_i rest
    have hdigits := none_notMem_digits (none_notMem_tail h)
    split at hfraction
    · cases hfraction
    · rename_i hne heq
      cases hfraction
      rwa [heq] at hdigits
  · cases hfraction
    exact h

theorem none_notMem_exponentDigits {negative : Bool} {power : Option Int} {after : List Symbol} (h : none ∉ s)
    (hexponent : exponentDigits? negative s = some (power, after)) : none ∉ after := by
  have hdigits := none_notMem_digits h
  unfold exponentDigits? at hexponent
  split at hexponent
  · cases hexponent
  · rename_i hne heq
    cases hexponent
    rwa [heq] at hdigits

theorem none_notMem_exponent {power : Option Int} {after : List Symbol} (h : none ∉ s)
    (hexponent : exponent? s = some (power, after)) : none ∉ after := by
  unfold exponent? at hexponent
  split at hexponent
  case h_3 =>
    cases hexponent
    exact h
  all_goals
    have hrest := none_notMem_tail h
    split at hexponent
    · exact none_notMem_exponentDigits (none_notMem_tail hrest) hexponent
    · exact none_notMem_exponentDigits (none_notMem_tail hrest) hexponent
    · exact none_notMem_exponentDigits hrest hexponent

theorem notUtf8_notMem_ofInteger (n : Int) : .notUtf8 ∉ (Draft.ofInteger n).faults := by
  unfold Draft.ofInteger
  split <;> exact List.not_mem_nil

theorem ofCharacters_some {faults : List TextFault} (hfaults : .notUtf8 ∉ faults) (h : none ∉ s) :
    OfCharacters faults (some s) where
  faults := hfaults
  rest := by
    intro after heq
    cases heq
    exact h

theorem ofCharacters_none {faults : List TextFault} (hfaults : .notUtf8 ∉ faults) : OfCharacters faults none where
  faults := hfaults
  rest := by
    intro after heq
    cases heq

theorem ofCharacters_broken : OfCharacters Draft.broken.faults none :=
  ofCharacters_none (by simp [Draft.faults])

theorem ofCharacters_unsigned (negative : Bool) (h : none ∉ s) :
    OfCharacters (unsigned negative s).1.faults (unsigned negative s).2 := by
  unfold unsigned
  dsimp only
  split
  · exact ofCharacters_broken
  split
  · exact ofCharacters_broken
  rename_i hfraction
  have hafter := none_notMem_fraction (none_notMem_digits h) hfraction
  split
  · exact ofCharacters_broken
  rename_i hexponent
  have hrest := none_notMem_exponent hafter hexponent
  split
  · exact ofCharacters_some (notUtf8_notMem_ofInteger _) hrest
  · exact ofCharacters_some List.not_mem_nil hrest

theorem ofCharacters_number (h : none ∉ s) : OfCharacters (number s).1.faults (number s).2 := by
  unfold number
  split
  · exact ofCharacters_unsigned true (none_notMem_tail h)
  · exact ofCharacters_unsigned false h

theorem none_notMem_keyword {word : List Char} {after : List Symbol} (h : none ∉ s)
    (hword : keyword? word s = some after) : none ∉ after := by
  unfold keyword? at hword
  split at hword
  · cases hword
    exact fun hmem => h (List.mem_of_mem_drop hmem)
  · cases hword

theorem ofCharacters_scalar (h : none ∉ s) : OfCharacters (scalar s).1.faults (scalar s).2 := by
  unfold scalar
  split
  · rename_i hword
    exact ofCharacters_some List.not_mem_nil (none_notMem_keyword h hword)
  split
  · rename_i hword
    exact ofCharacters_some List.not_mem_nil (none_notMem_keyword h hword)
  split
  · rename_i hword
    exact ofCharacters_some List.not_mem_nil (none_notMem_keyword h hword)
  · exact ofCharacters_number h

/-! ### Values

Values, items and members are read with one step less each, so the three statements are proved together by induction on the steps. -/

theorem notUtf8_notMem_openFaults (closed : Bool) : .notUtf8 ∉ Draft.openFaults closed := by
  cases closed <;> simp [Draft.openFaults]

/-- A container has the faults of its parts, and that of not being closed. -/
theorem OfCharacters.container {faults : List TextFault} {rest : Option (List Symbol)} (h : OfCharacters faults rest)
    (closed : Bool) : OfCharacters (faults ++ Draft.openFaults closed) rest where
  faults := by
    rw [List.mem_append, not_or]
    exact ⟨h.faults, notUtf8_notMem_openFaults closed⟩
  rest := h.rest

theorem OfCharacters.append {faults others : List TextFault} {rest : Option (List Symbol)} (h : .notUtf8 ∉ faults)
    (hothers : OfCharacters others rest) : OfCharacters (faults ++ others) rest where
  faults := by
    rw [List.mem_append, not_or]
    exact ⟨h, hothers.faults⟩
  rest := hothers.rest

theorem itemFaults_singleton (item : Draft) : Draft.itemFaults [item] = item.faults := by
  simp [Draft.itemFaults]

theorem memberFaults_singleton (key : String) (d : Draft) : Draft.memberFaults [(some key, d)] = d.faults := by
  simp [Draft.memberFaults]

def ReadsCharacters (steps : Nat) : Prop :=
  ∀ s, none ∉ s → OfCharacters (read steps s).1.faults (read steps s).2

def ReadsItemsOfCharacters (steps : Nat) : Prop :=
  ∀ s, none ∉ s → OfCharacters (Draft.itemFaults (readItems steps s).1) (readItems steps s).2

def ReadsMembersOfCharacters (steps : Nat) : Prop :=
  ∀ s, none ∉ s → OfCharacters (Draft.memberFaults (readMembers steps s).1) (readMembers steps s).2

theorem readsCharacters_succ {steps : Nat} (hitems : ReadsItemsOfCharacters steps)
    (hmembers : ReadsMembersOfCharacters steps) : ReadsCharacters (steps + 1) := by
  intro s h
  have hspace := none_notMem_skipSpace h
  rw [read]
  split
  · rename_i rest heq
    rw [heq] at hspace
    have hbody := bodyOfCharacters_stringBody (none_notMem_tail hspace)
    split
    · rename_i content after hstring
      obtain ⟨hcontent, hafter⟩ := hbody content after hstring
      obtain ⟨chars, rfl⟩ := Option.ne_none_iff_exists'.1 hcontent
      exact ofCharacters_some List.not_mem_nil hafter
    · exact ofCharacters_none (by simp [Draft.faults])
  · rename_i rest heq
    rw [heq] at hspace
    have hinner := none_notMem_skipSpace (none_notMem_tail hspace)
    split
    · rename_i after heq
      rw [heq] at hinner
      exact ofCharacters_some List.not_mem_nil (none_notMem_tail hinner)
    · exact (hitems _ hinner).container _
  · rename_i rest heq
    rw [heq] at hspace
    have hinner := none_notMem_skipSpace (none_notMem_tail hspace)
    split
    · rename_i after heq
      rw [heq] at hinner
      exact ofCharacters_some List.not_mem_nil (none_notMem_tail hinner)
    · exact (hmembers _ hinner).container _
  · exact ofCharacters_scalar hspace

theorem readsItemsOfCharacters_succ {steps : Nat} (hvalues : ReadsCharacters steps)
    (hitems : ReadsItemsOfCharacters steps) : ReadsItemsOfCharacters (steps + 1) := by
  intro s h
  have hvalue := hvalues s h
  rw [readItems]
  split
  · rename_i item heq
    rw [heq] at hvalue
    exact ofCharacters_none (itemFaults_singleton item ▸ hvalue.faults)
  · rename_i item rest heq
    rw [heq] at hvalue
    have hfaults : .notUtf8 ∉ item.faults := hvalue.faults
    have hrest := none_notMem_skipSpace (hvalue.rest rest rfl)
    split
    · rename_i after heq
      rw [heq] at hrest
      exact ofCharacters_some (itemFaults_singleton item ▸ hfaults) (none_notMem_tail hrest)
    · rename_i after heq
      rw [heq] at hrest
      exact .append hfaults (hitems _ (none_notMem_tail hrest))
    · exact ofCharacters_none (itemFaults_singleton item ▸ hfaults)

theorem readsMembersOfCharacters_succ {steps : Nat} (hvalues : ReadsCharacters steps)
    (hmembers : ReadsMembersOfCharacters steps) : ReadsMembersOfCharacters (steps + 1) := by
  intro s h
  have hspace := none_notMem_skipSpace h
  rw [readMembers]
  split
  · rename_i rest heq
    rw [heq] at hspace
    have hbody := bodyOfCharacters_stringBody (none_notMem_tail hspace)
    split
    · exact ofCharacters_none List.not_mem_nil
    rename_i content after hstring
    obtain ⟨hcontent, hafter⟩ := hbody content after hstring
    obtain ⟨chars, rfl⟩ := Option.ne_none_iff_exists'.1 hcontent
    have hcolon := none_notMem_skipSpace hafter
    dsimp only [Option.map_some]
    split
    · rename_i rest heq
      rw [heq] at hcolon
      have hvalue := hvalues rest (none_notMem_tail hcolon)
      split
      · rename_i value heq
        rw [heq] at hvalue
        exact ofCharacters_none (memberFaults_singleton _ value ▸ hvalue.faults)
      · rename_i value rest heq
        rw [heq] at hvalue
        have hfaults : .notUtf8 ∉ value.faults := hvalue.faults
        have hrest := none_notMem_skipSpace (hvalue.rest rest rfl)
        split
        · rename_i after heq
          rw [heq] at hrest
          exact ofCharacters_some (memberFaults_singleton _ value ▸ hfaults) (none_notMem_tail hrest)
        · rename_i after heq
          rw [heq] at hrest
          exact .append hfaults (hmembers _ (none_notMem_tail hrest))
        · exact ofCharacters_none (memberFaults_singleton _ value ▸ hfaults)
    · exact ofCharacters_none (memberFaults_singleton _ Draft.broken ▸ ofCharacters_broken.faults)
  · exact ofCharacters_none List.not_mem_nil

theorem readsCharacters (steps : Nat) :
    ReadsCharacters steps ∧ ReadsItemsOfCharacters steps ∧ ReadsMembersOfCharacters steps := by
  induction steps with
  | zero =>
      refine ⟨fun s _ => ofCharacters_broken, fun s _ => ofCharacters_none ?_, fun s _ => ofCharacters_none ?_⟩
      · exact itemFaults_singleton .broken ▸ ofCharacters_broken.faults
      · exact List.not_mem_nil
  | succ steps ih =>
      obtain ⟨hvalues, hitems, hmembers⟩ := ih
      exact ⟨readsCharacters_succ hitems hmembers, readsItemsOfCharacters_succ hvalues hitems,
        readsMembersOfCharacters_succ hvalues hmembers⟩

/-- A text without stray octets has no string with one. -/
theorem notUtf8_notMem_faults {s : List Symbol} (h : none ∉ s) : .notUtf8 ∉ (reading s).faults := by
  have hread := (readsCharacters (2 * s.length + 1)).1 s h
  unfold reading
  split
  · rename_i heq
    rw [heq] at hread
    exact (hread.container _).faults
  · rename_i heq
    rw [heq] at hread
    exact (hread.container _).faults

end Json

/-! ### Payloads -/

namespace Payload

/-- The reading of a payload that is text. -/
def reading? : Payload → Option Json.Reading
  | value (.str s) => some (Json.reading (Json.symbols s))
  | value _ => none
  | text s => some (Json.reading (Json.symbols s))
  | octets o => some (Json.reading (Utf8.pieces o))

theorem decoded_of_reading {payload : Payload} {r : Json.Reading} (h : payload.reading? = some r) :
    payload.decoded = r.value := by
  cases payload with
  | value v =>
      cases v <;> cases h
      rfl
  | text s =>
      cases h
      rfl
  | octets o =>
      cases h
      rfl

theorem ofText_ne_notUtf8 (s : String) : Json.ofText s ≠ .error .notUtf8 := by
  intro h
  have hhead := (Json.Reading.endsBy_value _).eq_error_iff.1 h
  have hsymbols : none ∉ Json.symbols s := by simp [Json.symbols]
  exact Json.notUtf8_notMem_faults hsymbols (List.mem_of_mem_head? hhead)

/-- Only octets have a string that is not UTF-8, and only octets that no text is encoded to. -/
theorem decoded_eq_notUtf8_iff {payload : Payload} :
    payload.decoded = .error .notUtf8 ↔ ∃ octets, payload = .octets octets ∧ (∀ text, octets ≠ Utf8.encode text)
      ∧ (Json.reading (Utf8.pieces octets)).faults.head? = some .notUtf8 := by
  constructor
  · intro h
    cases payload with
    | value v =>
        cases v with
        | str s => exact absurd h (ofText_ne_notUtf8 s)
        | _ => cases h
    | text s => exact absurd h (ofText_ne_notUtf8 s)
    | octets octets =>
        have hhead := (Json.Reading.endsBy_value _).eq_error_iff.1 h
        refine ⟨octets, rfl, fun text htext => ?_, hhead⟩
        rw [htext, Utf8.pieces_encode] at hhead
        have hpieces : none ∉ text.map some := by simp
        exact Json.notUtf8_notMem_faults hpieces (List.mem_of_mem_head? hhead)
  · rintro ⟨octets, rfl, -, hhead⟩
    exact (Json.Reading.endsBy_value _).eq_error_iff.2 hhead

end Payload

end RegistrySearch
