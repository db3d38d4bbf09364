import RegistrySearch.Proofs.Query.FirstFault
import RegistrySearch.Proofs.Search.Totality
import RegistrySearch.Proofs.Text.Similarity

/-!
# Unsupported criteria

A declaration field can be given a value that is no criterion for it, in a payload or by a program, and both the reader and the compiler have to say so. The reader looks at the tag of the value. The compiler looks for the variants of criteria and never takes a value that was not read. Where the tag is unsupported, both report the same (`Criterion.rejected_alike`).

The report has a hint if there is a supported tag that the given one was probably meant to be. That is the first of the most similar ones, if it is similar enough (`suggests_first_closest`).
-/

namespace RegistrySearch

/-! ### Hints -/

theorem suggestTag_str (word : String) (supported : List String) :
    suggestTag (.str word) supported = Similarity.closest? word supported := rfl

theorem suggestTag_of_mem {word : String} {supported : List String} (h : word ∈ supported) :
    suggestTag (.str word) supported = none := by
  rw [suggestTag_str]
  exact if_pos h

/-- The empty word is not similar to any other one, so it is never suggested. -/
theorem suggestTag_ne_empty (tag : Json) (supported : List String) : suggestTag tag supported ≠ some "" := by
  cases tag with
  | str word =>
      rw [suggestTag_str, ne_eq, Similarity.closest?_eq_some_iff, Similarity.ratio_empty]
      norm_num
  | _ => simp [suggestTag]

namespace UnsupportedCriterion

/-- What the message of an unsupported criterion says before it hints at anything. -/
def heading (u : UnsupportedCriterion) : String :=
  "Unsupported query type: " ++ Quoted.value u.tag ++ " for field " ++ Quoted.text u.field

/-- The message ends with a hint at a word. -/
def HintsAt (u : UnsupportedCriterion) (word : String) : Prop :=
  u.message = u.heading ++ " (did you mean " ++ Quoted.text word ++ "?)"

variable {u : UnsupportedCriterion}

theorem message_eq (u : UnsupportedCriterion) : u.message = u.heading ++ hint u.suggestion := rfl

theorem hintsAt_of_suggestion {word : String} (h : u.suggestion = some word) (hne : word ≠ "") : u.HintsAt word := by
  have hnonempty : word.isEmpty = false := by simpa using hne
  rw [HintsAt, message_eq, h, hint, hnonempty]
  simp only [Bool.false_eq_true, if_false, String.append_assoc]

theorem not_hintsAt_of_none (h : u.suggestion = none) (word : String) : ¬ u.HintsAt word := by
  rw [HintsAt, message_eq, h]
  intro heq
  have hlength := congrArg String.length heq
  have hclosing : "?)".length = 2 := by decide
  simp only [hint, String.append_empty, String.length_append] at hlength
  omega

end UnsupportedCriterion

/-- A tag is suggested exactly if it is the first one of those with the highest ratio to the given word, and this is three fifths or more, and the word is not a supported tag itself. So what is suggested is another word, and not an empty one, and the message hints at it. Without a suggestion the message hints at nothing. -/
theorem suggests_first_closest (word : String) (supported : List String) :
    (∀ found, suggestTag (.str word) supported = some found
        ↔ word ∉ supported ∧ Similarity.IsFirstBest (Similarity.ratio word) supported found
          ∧ 3 / 5 ≤ Similarity.ratio word found)
      ∧ (∀ found, suggestTag (.str word) supported = some found → found ∈ supported ∧ found ≠ word ∧ found ≠ "")
      ∧ ∀ field : String,
          let u := UnsupportedCriterion.of field (.str word) supported
          ((∃ hinted, u.HintsAt hinted) ↔ u.suggestion ≠ none) ∧ ∀ found, u.suggestion = some found → u.HintsAt found := by
  have hiff : ∀ found, suggestTag (.str word) supported = some found
      ↔ word ∉ supported ∧ Similarity.IsFirstBest (Similarity.ratio word) supported found
        ∧ 3 / 5 ≤ Similarity.ratio word found := fun found => Similarity.closest?_eq_some_iff
  have hnonempty : ∀ found, suggestTag (.str word) supported = some found → found ≠ "" := by
    rintro found hfound rfl
    exact suggestTag_ne_empty _ _ hfound
  refine ⟨hiff, fun found hfound => ?_, fun field => ?_⟩
  · obtain ⟨hword, hbest, -⟩ := (hiff found).1 hfound
    refine ⟨hbest.mem, ?_, hnonempty found hfound⟩
    rintro rfl
    exact hword hbest.mem
  · intro u
    have hhints : ∀ found, u.suggestion = some found → u.HintsAt found := fun found hfound =>
      UnsupportedCriterion.hintsAt_of_suggestion hfound (hnonempty found hfound)
    refine ⟨⟨?_, fun hsome => ?_⟩, hhints⟩
    · rintro ⟨hinted, hhinted⟩ hnone
      exact UnsupportedCriterion.not_hintsAt_of_none hnone hinted hhinted
    · obtain ⟨found, hfound⟩ := Option.ne_none_iff_exists'.1 hsome
      exact ⟨found, hhints found hfound⟩

/-- Three letters in common are just enough for two words of five. -/
theorem suggests_first_closest_exist :
    suggestTag (.str "exist") UnsupportedCriterion.supportedTags = some "exact"
      ∧ 3 / 5 ≤ Similarity.ratio "exist" "exact"
      ∧ (UnsupportedCriterion.of "child.name" (.str "exist") UnsupportedCriterion.supportedTags).HintsAt "exact" := by
  have hexact : suggestTag (.str "exist") UnsupportedCriterion.supportedTags = some "exact" := by decide +kernel
  obtain ⟨hsuggests, -, hhints⟩ := suggests_first_closest "exist" UnsupportedCriterion.supportedTags
  exact ⟨hexact, ((hsuggests "exact").1 hexact).2.2, (hhints "child.name").2 "exact" hexact⟩

/-! ### Reports -/

namespace Criterion

variable {v tag : Json} {id : String}

theorem parse_raw_of_unsupported (h : (CriterionFault.unsupported tag).IsOf v) (id : String) :
    (raw v).parse id = .error (.unsupported (.of id tag UnsupportedCriterion.supportedTags)) := by
  cases hparse : (raw v).parse id with
  | ok criterion =>
      have haccepts := Form.accepts_iff.2 ⟨criterion, parse_raw_spells hparse⟩
      exact absurd h (CriterionFault.not_isOf_of_accepts haccepts _)
  | error failure =>
      rcases parse_raw_eq_error hparse with ⟨other, hother, rfl⟩ | ⟨⟨variant, hvariant, htag⟩, -⟩
      · rw [(Json.hasTag_iff.1 hother.1).symm.trans (Json.hasTag_iff.1 h.1)]
      · have heq : tag = .str variant.tag := (Json.hasTag_iff.1 h.1).symm.trans (Json.hasTag_iff.1 htag)
        exact absurd heq (h.2 variant.tag (List.mem_map_of_mem (f := Variant.tag) hvariant))

/-- A value with a supported tag can be rejected for other reasons only. -/
theorem parse_raw_ne_unsupported {word : String} (htag : v.HasTag (.str word))
    (hword : word ∈ ["exact", "fuzzy", "anyOf", "range"]) (id : String) (u : UnsupportedCriterion) :
    (raw v).parse id ≠ .error (.unsupported u) := by
  intro hparse
  rcases parse_raw_eq_error hparse with ⟨other, hother, -⟩ | ⟨-, cause, hcause⟩
  · have heq : other = .str word := (Json.hasTag_iff.1 hother.1).symm.trans (Json.hasTag_iff.1 htag)
    exact hother.2 word hword heq
  · cases hcause

end Criterion

/-- A value that was never read is not compiled, whatever it looks like, and the log says so. -/
theorem Compiler.run_compileField_raw (compiler : Compiler) (id : String) (v : Json) (isName : Bool) (memo : Memo) :
    (compiler.compileField id (.raw v) isName).run memo
      = ⟨.error (.unsupported (.of id (Criterion.rawTag v) UnsupportedCriterion.supportedTags)), memo,
          [.rejected (Criterion.rawTag v) id]⟩ := rfl

/-- A value with an unsupported tag is rejected by the reader and, if it is compiled without having been read, by every compiler, and the report is the same. A value with a supported tag is rejected by the compiler too, without a suggestion. The reader never reports such a value as one of an unsupported type, and what it reads from it compiles. -/
theorem Criterion.rejected_alike (id : String) (v tag : Json) (htag : v.HasTag tag) :
    ((∀ word ∈ ["exact", "fuzzy", "anyOf", "range"], tag ≠ .str word) →
      ∃ u : UnsupportedCriterion, u.field = id ∧ u.tag = tag
        ∧ (raw v).parse id = .error (.unsupported u)
        ∧ (∀ (compiler : Compiler) (isName : Bool) (memo : Memo),
            ((compiler.compileField id (raw v) isName).run memo).result = .error (.unsupported u))
        ∧ (QueryFailure.unsupported u).message = (CompileFailure.unsupported u).message)
    ∧ ∀ word ∈ ["exact", "fuzzy", "anyOf", "range"], tag = .str word →
        (∀ (compiler : Compiler) (isName : Bool) (memo : Memo),
          ((compiler.compileField id (raw v) isName).run memo).result = .error (.unsupported ⟨id, .str word, none⟩))
        ∧ (∀ u, (raw v).parse id ≠ .error (.unsupported u))
        ∧ ∀ criterion, (raw v).parse id = .ok criterion →
            ∀ (compiler : Compiler) (isName : Bool) (memo : Memo), ∃ condition,
              ((compiler.compileField id criterion isName).run memo).result = .ok condition := by
  have hraw : rawTag v = tag := Json.hasTag_iff.1 htag
  constructor
  · intro hunsupported
    refine ⟨.of id tag UnsupportedCriterion.supportedTags, rfl, rfl, parse_raw_of_unsupported ⟨htag, hunsupported⟩ id,
      fun compiler isName memo => ?_, rfl⟩
    rw [compiler.run_compileField_raw, hraw]
  · rintro word hword rfl
    refine ⟨fun compiler isName memo => ?_, parse_raw_ne_unsupported htag hword id,
      fun criterion hparse compiler isName memo => ?_⟩
    · have hnone : suggestTag (.str word) UnsupportedCriterion.supportedTags = none := suggestTag_of_mem hword
      rw [compiler.run_compileField_raw, hraw, UnsupportedCriterion.of, hnone]
    · exact compiler.exists_condition id (isOneOf_of_parse hparse) isName memo

/-- A tag that is no text, a value that is no object, and bounds of which one is missing. -/
theorem Criterion.rejected_alike_brokenValues :
    (∃ u : UnsupportedCriterion, u.tag = .arr [.str "exact"]
        ∧ (raw (.obj [("type", .arr [.str "exact"])])).parse "child.name" = .error (.unsupported u)
        ∧ ((Compiler.compileField {} "child.name" (raw (.obj [("type", .arr [.str "exact"])])) true).run
            Memo.empty).result = .error (.unsupported u))
      ∧ (∃ u : UnsupportedCriterion, u.tag = .str "str"
        ∧ (raw (.str "exact")).parse "child.name" = .error (.unsupported u)
        ∧ ((Compiler.compileField {} "child.name" (raw (.str "exact")) false).run Memo.empty).result
          = .error (.unsupported u))
      ∧ ((Compiler.compileField {} "child.dob" (raw (.obj [("gte", .str "2020-01-01"), ("type", .str "range")])) false).run
          Memo.empty).result = .error (.unsupported ⟨"child.dob", .str "range", none⟩)
      ∧ ∀ u, (raw (.obj [("gte", .str "2020-01-01"), ("type", .str "range")])).parse "child.dob"
          ≠ .error (.unsupported u) := by
  obtain ⟨list, -, hlist, hparse, hcompile, -⟩ :=
    (rejected_alike "child.name" (.obj [("type", .arr [.str "exact"])]) _ (.given rfl)).1 (by simp)
  obtain ⟨text, -, htext, hparse', hcompile', -⟩ :=
    (rejected_alike "child.name" (.str "exact") _ (.str "exact")).1 (by simp)
  obtain ⟨hbounds, hread, -⟩ :=
    (rejected_alike "child.dob" (.obj [("gte", .str "2020-01-01"), ("type", .str "range")]) _ (.given rfl)).2
      "range" (by simp) rfl
  exact ⟨⟨list, hlist, hparse, hcompile _ _ _⟩, ⟨text, htext, hparse', hcompile' _ _ _⟩, hbounds _ _ _, hread⟩

end RegistrySearch
