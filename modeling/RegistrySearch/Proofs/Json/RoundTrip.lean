import RegistrySearch.Json.Writer
import RegistrySearch.Proofs.Json.Draft
import RegistrySearch.Proofs.Text.Utf8

/-!
# Written text reads back

The text of a value without numbers is read as that value, from characters and from octets (`Json.Writable.ofText`, `Json.Writable.ofOctets`). The writer puts no white space, so that each part of a value can be followed through the reader: a character of a string is what its escape stands for, and a value is read up to what follows it. Numbers are left out, because queries have none and their text is another matter.
-/

namespace RegistrySearch

namespace Json

/-! ### Strings -/

theorem hexDigit?_digitChar : ∀ n < 16, hexDigit? (some (Nat.digitChar n)) = some n := by
  decide

theorem hex4?_digitChar {n : Nat} (h : n < 0x100) :
    hex4? (some '0') (some '0') (some (Nat.digitChar (n / 16))) (some (Nat.digitChar (n % 16))) = some n := by
  have hhigh := hexDigit?_digitChar (n / 16) (by omega)
  have hlow := hexDigit?_digitChar (n % 16) (by omega)
  have hzero : hexDigit? (some '0') = some 0 := rfl
  rw [hex4?, hzero, hhigh, hlow]
  simp only [Option.bind_eq_bind, Option.bind_some, Option.pure_def, Option.some.injEq]
  omega

/-- Four hexadecimal digits below the surrogates are the character with this number. -/
theorem stringBody_hex {a b c d : Symbol} {n : Nat} (h : hex4? a b c d = some n) (hn : n < 0xD800)
    (rest : List Symbol) :
    stringBody (some '\\' :: some 'u' :: a :: b :: c :: d :: rest)
      = consContent (Char.ofNat n) (stringBody rest) := by
  have hlow : CodePoint.isLow n = false := by
    rw [CodePoint.isLow, Bool.and_eq_false_iff, decide_eq_false_iff_not]
    omega
  have hhigh : CodePoint.isHigh n = false := by
    rw [CodePoint.isHigh, Bool.and_eq_false_iff, decide_eq_false_iff_not]
    omega
  rw [stringBody]
  simp only [h, hlow, hhigh, Bool.false_eq_true, ↓reduceIte]

theorem stringBody_escape {e : Symbol} {c : Char} (h : escaped? e = some c) (rest : List Symbol) :
    stringBody (some '\\' :: e :: rest) = consContent c (stringBody rest) := by
  have hu : e ≠ some 'u' := by
    rintro rfl
    cases h
  rw [stringBody.eq_def]
  split
  · rename_i heq; cases heq
  · rename_i heq; cases heq
  · rename_i heq; cases heq; exact absurd rfl hu
  · rename_i heq; cases heq; rw [h]
  · rename_i heq; cases heq
  · rename_i heq; cases heq
  · rename_i hescape _ heq; cases heq; exact (hescape e rest rfl rfl).elim

theorem stringBody_plain {c : Char} (hquote : c ≠ '"') (hslash : c ≠ '\\') (hcontrol : ¬ c.toNat < 0x20)
    (rest : List Symbol) : stringBody (some c :: rest) = consContent c (stringBody rest) := by
  rw [stringBody.eq_def]
  split
  · rename_i heq; cases heq
  · rename_i heq; cases heq; exact absurd rfl hquote
  · rename_i heq; cases heq; exact absurd rfl hslash
  · rename_i heq; cases heq; exact absurd rfl hslash
  · rename_i heq; cases heq; exact absurd rfl hslash
  · rename_i heq; cases heq
  · rename_i heq; cases heq; rw [if_neg hcontrol]

/-- What a character is written as stands for it. -/
theorem stringBody_writeChar (c : Char) (rest : List Symbol) :
    stringBody ((writeChar c).map some ++ rest) = consContent c (stringBody rest) := by
  unfold writeChar
  split
  · rename_i h; subst h; exact stringBody_escape rfl rest
  split
  · rename_i h; subst h; exact stringBody_escape rfl rest
  split
  · rename_i h; subst h; exact stringBody_escape rfl rest
  split
  · rename_i h; subst h; exact stringBody_escape rfl rest
  split
  · rename_i h; subst h; exact stringBody_escape rfl rest
  split
  · rename_i h; subst h; exact stringBody_escape rfl rest
  split
  · rename_i h; subst h; exact stringBody_escape rfl rest
  split
  · rename_i hcontrol
    have hhex : hex4? _ _ _ _ = some c.toNat := hex4?_digitChar (by omega)
    have hread := stringBody_hex hhex (by omega) rest
    rw [Char.ofNat_toNat] at hread
    exact hread
  · rename_i hquote hslash _ _ _ _ _ hcontrol
    exact stringBody_plain hquote hslash hcontrol rest

theorem stringBody_flatMap (cs : List Char) (rest : List Symbol) :
    stringBody ((cs.flatMap writeChar).map some ++ some '"' :: rest) = some (some cs, rest) := by
  induction cs with
  | nil => rw [List.flatMap_nil, List.map_nil, List.nil_append, stringBody]
  | cons c cs ih =>
      rw [List.flatMap_cons, List.map_append, List.append_assoc, stringBody_writeChar, ih]
      rfl

theorem writeString_append (s : String) (rest : List Symbol) :
    (writeString s).map some ++ rest = some '"' :: ((s.toList.flatMap writeChar).map some ++ some '"' :: rest) := by
  rw [writeString, List.map_cons, List.map_append, List.cons_append, List.append_assoc]
  rfl

/-! ### One step of the reader -/

theorem skipSpace_cons {first : Symbol} (h : isSpace first = false) (rest : List Symbol) :
    skipSpace (first :: rest) = first :: rest := by
  rw [skipSpace, List.dropWhile_cons_of_neg (by rw [h]; decide)]

theorem read_string (steps : Nat) (s : String) (rest : List Symbol) :
    read (steps + 1) ((writeString s).map some ++ rest) = (.str (some s), some rest) := by
  rw [writeString_append, read, skipSpace_cons rfl]
  simp only [stringBody_flatMap, Option.map_some, String.ofList_toList]

theorem read_array {steps : Nat} {first : Symbol} (hspace : isSpace first = false) (hclose : first ≠ some ']')
    {rest after : List Symbol} {items : List Draft} (h : readItems steps (first :: rest) = (items, some after)) :
    read (steps + 1) (some '[' :: first :: rest) = (.arr items true, some after) := by
  rw [read, skipSpace_cons rfl]
  simp only [skipSpace_cons hspace]
  split
  · rename_i heq
    exact absurd (List.cons.inj heq).1 hclose
  · rw [h]
    rfl

theorem readItems_last {steps : Nat} {s rest : List Symbol} {item : Draft}
    (h : read steps s = (item, some (some ']' :: rest))) : readItems (steps + 1) s = ([item], some rest) := by
  rw [readItems, h]
  simp only [skipSpace_cons (rfl : isSpace (some ']') = false)]

theorem readItems_more {steps : Nat} {s more : List Symbol} {item : Draft}
    (h : read steps s = (item, some (some ',' :: more))) :
    readItems (steps + 1) s = (item :: (readItems steps more).1, (readItems steps more).2) := by
  rw [readItems, h]
  simp only [skipSpace_cons (rfl : isSpace (some ',') = false)]

theorem read_object {steps : Nat} {rest after : List Symbol} {members : List (Option String × Draft)}
    (h : readMembers steps (some '"' :: rest) = (members, some after)) :
    read (steps + 1) (some '\x7b' :: some '"' :: rest) = (.obj members true, some after) := by
  rw [read, skipSpace_cons rfl]
  simp only [skipSpace_cons (rfl : isSpace (some '"') = false)]
  split
  · rename_i heq
    cases heq
  · rw [h]
    rfl

theorem readMembers_last {steps : Nat} {key : String} {s rest : List Symbol} {value : Draft}
    (h : read steps s = (value, some (some '\x7d' :: rest))) :
    readMembers (steps + 1) ((writeString key).map some ++ some ':' :: s) = ([(some key, value)], some rest) := by
  rw [writeString_append, readMembers, skipSpace_cons rfl]
  simp only [stringBody_flatMap, skipSpace_cons (rfl : isSpace (some ':') = false), h,
    skipSpace_cons (rfl : isSpace (some '\x7d') = false), Option.map_some, String.ofList_toList]

theorem readMembers_more {steps : Nat} {key : String} {s more : List Symbol} {value : Draft}
    (h : read steps s = (value, some (some ',' :: more))) :
    readMembers (steps + 1) ((writeString key).map some ++ some ':' :: s)
      = ((some key, value) :: (readMembers steps more).1, (readMembers steps more).2) := by
  rw [writeString_append, readMembers, skipSpace_cons rfl]
  simp only [stringBody_flatMap, skipSpace_cons (rfl : isSpace (some ':') = false), h,
    skipSpace_cons (rfl : isSpace (some ',') = false), Option.map_some, String.ofList_toList]

/-! ### Whole values -/

mutual

/-- No part of the value is a number. -/
def NumberFree : Json → Prop
  | int _ => False
  | float _ => False
  | arr items => NumberFreeItems items
  | obj members => NumberFreeMembers members
  | _ => True

def NumberFreeItems : List Json → Prop
  | [] => True
  | item :: rest => NumberFree item ∧ NumberFreeItems rest

def NumberFreeMembers : List (String × Json) → Prop
  | [] => True
  | (_, value) :: rest => NumberFree value ∧ NumberFreeMembers rest

end

theorem numberFreeItems_iff {items : List Json} : NumberFreeItems items ↔ ∀ item ∈ items, item.NumberFree := by
  induction items with
  | nil => simp [NumberFreeItems]
  | cons item items ih => rw [NumberFreeItems, ih, List.forall_mem_cons]

theorem numberFreeMembers_iff {members : List (String × Json)} :
    NumberFreeMembers members ↔ ∀ member ∈ members, member.2.NumberFree := by
  induction members with
  | nil => simp [NumberFreeMembers]
  | cons member members ih => rw [NumberFreeMembers, ih, List.forall_mem_cons]

/-- The text of a value starts with neither a space nor a bracket that closes an array. -/
theorem NumberFree.write_eq_cons {v : Json} (h : v.NumberFree) :
    ∃ c rest, v.write = c :: rest ∧ isSpace (some c) = false ∧ c ≠ ']' := by
  cases v with
  | null => exact ⟨_, _, rfl, rfl, by decide⟩
  | bool b => cases b <;> exact ⟨_, _, rfl, rfl, by decide⟩
  | int n => exact h.elim
  | float x => exact h.elim
  | str s => exact ⟨_, _, rfl, rfl, by decide⟩
  | arr items => exact ⟨_, _, rfl, rfl, by decide⟩
  | obj members => exact ⟨_, _, rfl, rfl, by decide⟩

theorem writeItems_eq_cons {item : Json} (h : item.NumberFree) (items : List Json) :
    ∃ c rest, writeItems (item :: items) = c :: rest ∧ isSpace (some c) = false ∧ c ≠ ']' := by
  obtain ⟨c, rest, hwrite, hspace, hclose⟩ := h.write_eq_cons
  cases items with
  | nil => exact ⟨c, rest, hwrite, hspace, hclose⟩
  | cons second items =>
      refine ⟨c, rest ++ ',' :: writeItems (second :: items), ?_, hspace, hclose⟩
      rw [writeItems, hwrite, List.cons_append]
      exact nofun

theorem writeMembers_eq_cons (key : String) (value : Json) (members : List (String × Json)) :
    ∃ rest, writeMembers ((key, value) :: members) = '"' :: rest := by
  cases members with
  | nil => exact ⟨_, rfl⟩
  | cons member members => exact ⟨_, rfl⟩

theorem write_arr_append (items : List Json) (rest : List Symbol) :
    (write (arr items)).map some ++ rest = some '[' :: ((writeItems items).map some ++ some ']' :: rest) := by
  rw [write, List.map_cons, List.map_append, List.cons_append, List.append_assoc]
  rfl

theorem write_obj_append (members : List (String × Json)) (rest : List Symbol) :
    (write (obj members)).map some ++ rest
      = some '\x7b' :: ((writeMembers members).map some ++ some '\x7d' :: rest) := by
  rw [write, List.map_cons, List.map_append, List.cons_append, List.append_assoc]
  rfl

theorem length_write_arr (items : List Json) : (write (arr items)).length = (writeItems items).length + 2 := by
  rw [write, List.length_cons, List.length_append, List.length_singleton]

theorem length_write_obj (members : List (String × Json)) :
    (write (obj members)).length = (writeMembers members).length + 2 := by
  rw [write, List.length_cons, List.length_append, List.length_singleton]

mutual

/-- A value is read from its text with whatever follows it, in at most as many steps as the text has characters. -/
theorem read_write : (v : Json) → v.NumberFree → (steps : Nat) → (rest : List Symbol) → v.write.length ≤ steps →
    read steps (v.write.map some ++ rest) = (Draft.ofJson v, some rest)
  | null, _, steps + 1, rest, _ => rfl
  | bool true, _, steps + 1, rest, _ => rfl
  | bool false, _, steps + 1, rest, _ => rfl
  | str s, _, steps + 1, rest, _ => read_string steps s rest
  | arr [], _, steps + 1, rest, _ => rfl
  | arr (item :: items), h, steps + 1, rest, hsteps => by
      rw [length_write_arr] at hsteps
      have hitems := readItems_writeItems item items h steps rest (by omega)
      obtain ⟨c, cs, hwrite, hspace, hclose⟩ := writeItems_eq_cons h.1 items
      rw [write_arr_append]
      rw [hwrite] at hitems ⊢
      exact read_array hspace (fun heq => hclose (Option.some.inj heq)) hitems
  | obj [], _, steps + 1, rest, _ => rfl
  | obj ((key, value) :: members), h, steps + 1, rest, hsteps => by
      rw [length_write_obj] at hsteps
      have hmembers := readMembers_writeMembers key value members h steps rest (by omega)
      obtain ⟨cs, hwrite⟩ := writeMembers_eq_cons key value members
      rw [write_obj_append]
      rw [hwrite] at hmembers ⊢
      exact read_object hmembers
  | v, h, 0, rest, hsteps => by
      obtain ⟨c, cs, hwrite, -⟩ := h.write_eq_cons
      rw [hwrite] at hsteps
      exact absurd hsteps (Nat.not_succ_le_zero _)

theorem readItems_writeItems : (item : Json) → (items : List Json) → NumberFreeItems (item :: items) →
    (steps : Nat) → (rest : List Symbol) → (writeItems (item :: items)).length < steps →
    readItems steps ((writeItems (item :: items)).map some ++ some ']' :: rest)
      = (Draft.ofItems (item :: items), some rest)
  | item, [], h, steps + 1, rest, hsteps =>
      readItems_last (read_write item h.1 steps (some ']' :: rest) (Nat.le_of_lt_succ hsteps))
  | item, second :: items, h, steps + 1, rest, hsteps => by
      rw [writeItems, List.length_append, List.length_cons] at hsteps
      · have hitem := read_write item h.1 steps
          (some ',' :: ((writeItems (second :: items)).map some ++ some ']' :: rest)) (by omega)
        have hitems := readItems_writeItems second items h.2 steps rest (by omega)
        rw [writeItems, List.map_append, List.map_cons, List.append_assoc, List.cons_append, readItems_more hitem,
          hitems]
        · rfl
        · exact nofun
      · exact nofun

theorem readMembers_writeMembers : (key : String) → (value : Json) → (members : List (String × Json)) →
    NumberFreeMembers ((key, value) :: members) → (steps : Nat) → (rest : List Symbol) →
    (writeMembers ((key, value) :: members)).length < steps →
    readMembers steps ((writeMembers ((key, value) :: members)).map some ++ some '\x7d' :: rest)
      = (Draft.ofMembers ((key, value) :: members), some rest)
  | key, value, [], h, steps + 1, rest, hsteps => by
      rw [writeMembers, List.length_append, List.length_cons] at hsteps
      have hvalue := read_write value h.1 steps (some '\x7d' :: rest) (by omega)
      rw [writeMembers, List.map_append, List.map_cons, List.append_assoc, List.cons_append]
      exact readMembers_last hvalue
  | key, value, (second, other) :: members, h, steps + 1, rest, hsteps => by
      rw [writeMembers, List.length_append, List.length_cons, List.length_append, List.length_cons] at hsteps
      · have hvalue := read_write value h.1 steps
          (some ',' :: ((writeMembers ((second, other) :: members)).map some ++ some '\x7d' :: rest)) (by omega)
        have hmembers := readMembers_writeMembers second other members h.2 steps rest (by omega)
        rw [writeMembers, List.map_append, List.map_cons, List.map_append, List.map_cons, List.append_assoc,
          List.cons_append, List.append_assoc, List.cons_append, readMembers_more hvalue, hmembers]
        · rfl
        · exact nofun
      · exact nofun

end

/-! ### Whole texts -/

/-- A value that its text is read back to: without numbers and without repeated keys. -/
structure Writable (v : Json) : Prop where
  numberFree : v.NumberFree
  distinctKeys : v.DistinctKeys

theorem writable_str (s : String) : (str s).Writable := ⟨trivial, trivial⟩

theorem writable_ofOption (s : Option String) : (ofOption s).Writable := by
  cases s with
  | none => exact ⟨trivial, trivial⟩
  | some s => exact writable_str s

theorem writable_arr {items : List Json} (h : ∀ item ∈ items, item.Writable) : (arr items).Writable := by
  refine ⟨?_, distinctKeys_arr.2 fun item hitem => (h item hitem).distinctKeys⟩
  rw [NumberFree, numberFreeItems_iff]
  exact fun item hitem => (h item hitem).numberFree

theorem writable_obj {members : List (String × Json)} (hnodup : (members.map (·.1)).Nodup)
    (h : ∀ member ∈ members, member.2.Writable) : (obj members).Writable := by
  refine ⟨?_, distinctKeys_obj.2 ⟨hnodup, fun member hmember => (h member hmember).distinctKeys⟩⟩
  rw [NumberFree, numberFreeMembers_iff]
  exact fun member hmember => (h member hmember).numberFree

theorem Writable.of_sublist {members others : List (String × Json)} (h : (obj members).Writable)
    (hsub : others.Sublist members) : (obj others).Writable := by
  have hfree := numberFreeMembers_iff.1 h.numberFree
  obtain ⟨hnodup, hkeys⟩ := distinctKeys_obj.1 h.distinctKeys
  refine writable_obj ((hsub.map (·.1)).nodup hnodup) fun member hmember => ?_
  exact ⟨hfree member (hsub.mem hmember), hkeys member (hsub.mem hmember)⟩

theorem writable_map {α : Type} {write : α → Json} {xs : List α} (h : ∀ x ∈ xs, (write x).Writable) :
    (arr (xs.map write)).Writable :=
  writable_arr (List.forall_mem_map.2 h)

theorem writable_strings (values : List String) : (strings values).Writable :=
  writable_map fun s _ => writable_str s

/-- Reading the whole text of a value leaves nothing over. -/
theorem reading_write {v : Json} (h : v.NumberFree) : reading (v.write.map some) = ⟨Draft.ofJson v, true⟩ := by
  have hread := read_write v h (2 * (v.write.map some).length + 1) [] (by rw [List.length_map]; omega)
  rw [List.append_nil] at hread
  rw [reading, hread]
  rfl

theorem Writable.value_reading {v : Json} (h : v.Writable) : (reading (v.write.map some)).value = .ok v := by
  rw [reading_write h.numberFree, Reading.value, Draft.value_ofJson v h.distinctKeys]
  rfl

theorem Writable.ofText {v : Json} (h : v.Writable) : ofText v.text = .ok v := by
  rw [Json.ofText, symbols, text, String.toList_ofList]
  exact h.value_reading

theorem Writable.ofOctets {v : Json} (h : v.Writable) : ofOctets (Utf8.encode v.text.toList) = .ok v := by
  rw [Json.ofOctets, Utf8.pieces_encode, text, String.toList_ofList]
  exact h.value_reading

end Json

end RegistrySearch
