import JobScript.Diagnostic.Suggestion
import JobScript.Proofs.Diagnostic.EditDistance

/-!
# The Nearest Candidate

A misspelled name is answered with the earliest of the candidates nearest to it, if one is within
the limit. Candidates are left out before their distance is taken if the sizes of the texts differ
by more than the limit. Sizes are in bytes and distances in characters, so this loses no answer as
long as every character is one byte; a single character that takes several bytes can hide the
candidate that would have been the answer.

## Architecture

- `Answers`: the earliest of the nearest candidates within the limit, or none
- `Answers.skip`, `Answers.take`, `Answers.keep`: the answer with one more candidate in front;
  `exists_answers`, `Answers.unique`
- `answers_nearest?_close`: what is suggested, among the candidates of a fitting size
- `sizeGap_le_editDistance`: sizes differ by no more than the distance, for ASCII texts
- `nearest_suggested_unless_size_differs`: when sizes do not matter
-/

namespace JobScript.Suggestion

variable {needle : String} {bound : Nat} {candidates : List String} {c d : String}
  {r r' : Option String}

/-! ## Section 1: Answers -/

/-- The answer for a needle: the earliest of the nearest candidates, if they are within the limit;
none, if no candidate is. -/
def Answers (needle : String) (bound : Nat) (candidates : List String) : Option String → Prop
  | none => ∀ c ∈ candidates, bound < editDistance needle c
  | some c => editDistance needle c ≤ bound ∧
    ∃ before after, candidates = before ++ c :: after ∧
      (∀ d ∈ before, editDistance needle c < editDistance needle d) ∧
      ∀ d ∈ after, editDistance needle c ≤ editDistance needle d

namespace Answers

theorem mem (h : Answers needle bound candidates (some c)) : c ∈ candidates := by
  obtain ⟨-, before, after, rfl, -, -⟩ := h
  exact List.mem_append_right before List.mem_cons_self

/-- No candidate is nearer than the answer. -/
theorem le (h : Answers needle bound candidates (some c)) (hd : d ∈ candidates) :
    editDistance needle c ≤ editDistance needle d := by
  obtain ⟨-, before, after, rfl, hbefore, hafter⟩ := h
  rcases List.mem_append.mp hd with hd | hd
  · exact Nat.le_of_lt (hbefore d hd)
  · rcases List.mem_cons.mp hd with rfl | hd
    · exact Nat.le_refl _
    · exact hafter d hd

/-- The answer is the first candidate at its distance. -/
theorem find?_eq (h : Answers needle bound candidates (some c)) :
    candidates.find? (fun d => editDistance needle d = editDistance needle c) = some c := by
  obtain ⟨-, before, after, rfl, hbefore, -⟩ := h
  have hnone : before.find? (fun d => editDistance needle d = editDistance needle c) = none := by
    rw [List.find?_eq_none]
    intro d hd hsame
    exact Nat.ne_of_gt (hbefore d hd) (decide_eq_true_iff.mp hsame)
  rw [List.find?_append, hnone, Option.none_or]
  exact List.find?_cons_of_pos (decide_eq_true rfl)

/-- There is one answer only. -/
theorem unique (h : Answers needle bound candidates r) (h' : Answers needle bound candidates r') :
    r = r' := by
  cases r with
  | none =>
    cases r' with
    | none => rfl
    | some c => exact absurd h'.1 (Nat.not_le.mpr (h c h'.mem))
  | some c =>
    cases r' with
    | none => exact absurd h.1 (Nat.not_le.mpr (h' c h.mem))
    | some d =>
      have hsame : editDistance needle c = editDistance needle d :=
        Nat.le_antisymm (h.le h'.mem) (h'.le h.mem)
      rw [← h.find?_eq, hsame, h'.find?_eq]

/-! ### One more candidate in front -/

theorem skip (hfar : bound < editDistance needle c) (h : Answers needle bound candidates r) :
    Answers needle bound (c :: candidates) r := by
  cases r with
  | none => exact List.forall_mem_cons.mpr ⟨hfar, h⟩
  | some d =>
    obtain ⟨hnear, before, after, rfl, hbefore, hafter⟩ := h
    have hcd : editDistance needle d < editDistance needle c := Nat.lt_of_le_of_lt hnear hfar
    exact ⟨hnear, c :: before, after, rfl, List.forall_mem_cons.mpr ⟨hcd, hbefore⟩, hafter⟩

/-- The candidate in front is the answer, if it is within the limit and as near as the answer
before. -/
theorem take (hnear : editDistance needle c ≤ bound)
    (hle : ∀ d, r = some d → editDistance needle c ≤ editDistance needle d)
    (h : Answers needle bound candidates r) : Answers needle bound (c :: candidates) (some c) := by
  refine ⟨hnear, [], candidates, rfl, by simp, ?_⟩
  intro d hd
  cases r with
  | none => exact Nat.le_of_lt (Nat.lt_of_le_of_lt hnear (h d hd))
  | some e => exact Nat.le_trans (hle e rfl) (h.le hd)

theorem keep (hlt : editDistance needle d < editDistance needle c)
    (h : Answers needle bound candidates (some d)) :
    Answers needle bound (c :: candidates) (some d) := by
  obtain ⟨hnear, before, after, rfl, hbefore, hafter⟩ := h
  exact ⟨hnear, c :: before, after, rfl, List.forall_mem_cons.mpr ⟨hlt, hbefore⟩, hafter⟩

/-- An answer that is among some of the candidates is the answer among these. -/
theorem filter {p : String → Bool} (h : Answers needle bound candidates r)
    (hkept : ∀ c, r = some c → p c = true) : Answers needle bound (candidates.filter p) r := by
  cases r with
  | none => exact fun c hc => h c (List.mem_filter.mp hc).1
  | some c =>
    obtain ⟨hnear, before, after, rfl, hbefore, hafter⟩ := h
    refine ⟨hnear, before.filter p, after.filter p, ?_, ?_, ?_⟩
    · rw [List.filter_append, List.filter_cons_of_pos (hkept c rfl)]
    · exact fun d hd => hbefore d (List.mem_filter.mp hd).1
    · exact fun d hd => hafter d (List.mem_filter.mp hd).1

end Answers

/-- There always is an answer. -/
theorem exists_answers (needle : String) (bound : Nat) (candidates : List String) :
    ∃ r, Answers needle bound candidates r := by
  induction candidates with
  | nil => exact ⟨none, by simp [Answers]⟩
  | cons c candidates ih =>
    obtain ⟨r, hr⟩ := ih
    by_cases hnear : editDistance needle c ≤ bound
    · by_cases hle : ∀ d, r = some d → editDistance needle c ≤ editDistance needle d
      · exact ⟨some c, hr.take hnear hle⟩
      · push Not at hle
        obtain ⟨d, rfl, hlt⟩ := hle
        exact ⟨some d, hr.keep hlt⟩
    · exact ⟨r, hr.skip (Nat.not_le.mp hnear)⟩

/-! ## Section 2: What is suggested -/

/-- The size of a candidate does not rule it out. -/
def fits (needle : String) (bound : Nat) (c : String) : Bool :=
  sizeGap needle.utf8ByteSize c.utf8ByteSize ≤ bound

theorem close_cons (needle : String) (bound : Nat) (c : String) (candidates : List String) :
    close needle bound (c :: candidates) =
      if fits needle bound c ∧ editDistance needle c ≤ bound
      then (c, editDistance needle c) :: close needle bound candidates
      else close needle bound candidates := by
  by_cases hfits : sizeGap needle.utf8ByteSize c.utf8ByteSize ≤ bound <;>
    by_cases hnear : editDistance needle c ≤ bound <;>
      simp [close, fits, hfits, hnear]

theorem mem_of_nearest? {l : List (String × Nat)} {found : String × Nat}
    (h : nearest? l = some found) : found ∈ l := by
  induction l generalizing found with
  | nil => cases h
  | cons first rest ih =>
    rw [nearest?] at h
    split at h
    · obtain rfl := Option.some.inj h
      exact List.mem_cons_self
    · rename_i other hother
      split at h
      · obtain rfl := Option.some.inj h
        exact List.mem_cons_self
      · obtain rfl := Option.some.inj h
        exact List.mem_cons_of_mem first (ih hother)

/-- Found candidates come with their distances. -/
theorem snd_of_mem_close {found : String × Nat} (h : found ∈ close needle bound candidates) :
    found.2 = editDistance needle found.1 := by
  obtain ⟨c, -, rfl⟩ := List.mem_map.mp (List.mem_filter.mp h).1
  rfl

/-- **What is found** is the answer among the candidates of a fitting size. -/
theorem answers_nearest?_close (needle : String) (bound : Nat) (candidates : List String) :
    Answers needle bound (candidates.filter (fits needle bound))
      ((nearest? (close needle bound candidates)).map Prod.fst) := by
  induction candidates with
  | nil => simp [close, nearest?, Answers]
  | cons c candidates ih =>
    rw [close_cons]
    by_cases hfits : fits needle bound c = true
    · rw [List.filter_cons_of_pos hfits]
      by_cases hnear : editDistance needle c ≤ bound
      · rw [if_pos ⟨hfits, hnear⟩, nearest?]
        cases hrest : nearest? (close needle bound candidates) with
        | none =>
          rw [hrest] at ih
          exact ih.take hnear (by simp)
        | some other =>
          rw [hrest] at ih
          have hother := snd_of_mem_close (mem_of_nearest? hrest)
          -- The candidate in front is the answer unless the other one is nearer
          by_cases hle : editDistance needle c ≤ other.2
          · simp only [hle, if_true, Option.map_some]
            refine ih.take hnear fun d hd => ?_
            obtain rfl := Option.some.inj hd
            rwa [← hother]
          · simp only [hle, if_false, Option.map_some]
            refine ih.keep ?_
            rw [← hother]
            exact Nat.not_le.mp hle
      · rw [if_neg fun h => hnear h.2]
        exact ih.skip (Nat.not_le.mp hnear)
    · rw [if_neg fun h => hfits h.1, List.filter_cons_of_neg hfits]
      exact ih

/-- A suggestion is one of the candidates. -/
theorem mem_of_similar? {name : String} (h : similar? name candidates = some c) :
    c ∈ candidates := by
  have hanswers := answers_nearest?_close (Text.asciiLower name)
    (limit name.utf8ByteSize) candidates
  rw [similar?] at h
  rw [h] at hanswers
  exact (List.mem_filter.mp hanswers.mem).1

/-! ## Section 3: Sizes -/

/-- The text has no characters outside ASCII. -/
def isAscii (s : String) : Bool :=
  s.toList.all fun c => c.toNat < 128

theorem isAscii_iff {s : String} : isAscii s = true ↔ ∀ c ∈ s.toList, c.toNat < 128 := by
  simp [isAscii]

/-- Every character of an ASCII text is one byte. -/
theorem utf8ByteSize_of_isAscii {s : String} (h : isAscii s = true) :
    s.utf8ByteSize = s.length := by
  have hbytes (l : List Char) (hl : ∀ c ∈ l, c.toNat < 128) :
      (String.ofList l).utf8ByteSize = l.length := by
    induction l with
    | nil => rfl
    | cons c l ih =>
      obtain ⟨hc, hl⟩ := List.forall_mem_cons.mp hl
      have hone : c.utf8Size = 1 := Char.utf8Size_eq_one_iff.mpr (Nat.le_of_lt_succ hc)
      rw [String.ofList_cons, String.utf8ByteSize_append, String.utf8ByteSize_singleton, hone,
        ih hl, List.length_cons, Nat.add_comm]
  rw [← String.length_toList, ← hbytes s.toList (isAscii_iff.mp h), String.ofList_toList]

/-- Sizes of ASCII texts differ by no more than the edits that lead from one to the other. -/
theorem sizeGap_le_editDistance {s t : String} (hs : isAscii s = true) (ht : isAscii t = true) :
    sizeGap s.utf8ByteSize t.utf8ByteSize ≤ editDistance s t := by
  have hst := length_le_add_editDistance s t
  have hts := length_le_add_editDistance t s
  rw [editDistance_comm] at hts
  rw [utf8ByteSize_of_isAscii hs, utf8ByteSize_of_isAscii ht, sizeGap]
  omega

theorem isAscii_asciiLower {s : String} (h : isAscii s = true) :
    isAscii (Text.asciiLower s) = true := by
  have hall : ∀ n < 128, (Char.ofNat n).toLower.toNat < 128 := by decide
  rw [isAscii_iff, Text.toList_asciiLower, List.forall_mem_map]
  intro c hc
  simpa using hall c.toNat (isAscii_iff.mp h c hc)

/-! ## Section 4: When sizes do not matter -/

/-- **Suggestions are the nearest candidates, unless sizes hide them.** What is suggested is the
earliest of the nearest candidates within the limit, among those whose size in bytes differs from
that of the name by no more than the limit. It is the earliest of the nearest among all candidates
exactly if that one has such a size, or if there is none; always so, if the texts are ASCII. -/
theorem nearest_suggested_unless_size_differs (name : String) (candidates : List String) :
    let needle := Text.asciiLower name
    let bound := limit name.utf8ByteSize
    Answers needle bound (candidates.filter (fits needle bound)) (similar? name candidates) ∧
      (Answers needle bound candidates (similar? name candidates) ↔
        ∀ c, Answers needle bound candidates (some c) → fits needle bound c = true) ∧
      (isAscii name = true → (∀ c ∈ candidates, isAscii c = true) →
        Answers needle bound candidates (similar? name candidates)) := by
  intro needle bound
  have hfiltered : Answers needle bound (candidates.filter (fits needle bound))
      (similar? name candidates) := answers_nearest?_close needle bound candidates
  have hanswers : Answers needle bound candidates (similar? name candidates) ↔
      ∀ c, Answers needle bound candidates (some c) → fits needle bound c = true := by
    constructor
    · intro h c hc
      rw [h.unique hc] at hfiltered
      exact (List.mem_filter.mp hfiltered.mem).2
    · intro h
      obtain ⟨r, hr⟩ := exists_answers needle bound candidates
      have hsame := hr.filter (p := fits needle bound) fun c hc => h c (hc ▸ hr)
      rwa [hfiltered.unique hsame]
  refine ⟨hfiltered, hanswers, fun hname hcandidates => hanswers.mpr fun c hc => ?_⟩
  have hgap := sizeGap_le_editDistance (isAscii_asciiLower hname) (hcandidates c hc.mem)
  exact decide_eq_true (Nat.le_trans hgap hc.1)

/-- A misspelled name is near enough to one of three names. -/
theorem misspelled_name_suggested :
    let candidates := ["increment", "decrement", "add"]
    isAscii "Incremnt" = true ∧ (∀ c ∈ candidates, isAscii c = true) ∧
      Answers "incremnt" 3 candidates (similar? "Incremnt" candidates) ∧
      similar? "Incremnt" candidates = some "increment" := by
  intro candidates
  have hname : isAscii "Incremnt" = true := by decide
  have hcandidates : ∀ c ∈ candidates, isAscii c = true := by decide
  exact ⟨hname, hcandidates,
    (nearest_suggested_unless_size_differs "Incremnt" candidates).2.2 hname hcandidates,
    by decide +kernel⟩

/-- A euro sign is one character too many, and three bytes: the name that was meant is not
suggested. -/
theorem nearest_hidden_by_size :
    ¬ ∀ (name : String) (candidates : List String),
      (∀ c ∈ candidates, Text.asciiLower c = c) →
        Answers (Text.asciiLower name) (limit name.utf8ByteSize) candidates
          (similar? name candidates) := by
  intro h
  have hclaim := h "add€" ["add"] (by decide)
  have hnone : similar? "add€" ["add"] = none := by decide +kernel
  rw [hnone] at hclaim
  have hfar : limit "add€".utf8ByteSize < editDistance (Text.asciiLower "add€") "add" :=
    hclaim "add" List.mem_cons_self
  revert hfar
  decide +kernel

end JobScript.Suggestion
