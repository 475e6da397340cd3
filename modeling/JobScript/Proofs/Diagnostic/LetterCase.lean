import JobScript.Proofs.Diagnostic.Suggestions
import Mathlib

/-!
# Suggestions and Letter Case

The name that suggestions are asked for is taken in small letters, and the candidates are taken as
they are written. So the case of the name never matters. A capital in a candidate is unlike every
character of the needle, and costs an edit of its own: a candidate in capitals can be passed over for
another one, or not be found at all, although in small letters it would be the answer.

## Architecture

- `Edits.map`, `Edits.countP_le`: edits of texts whose characters are changed alike, and the
  characters that edits bring in
- `capitals`: what they cost; `editDistance_asciiLower_le`, `capitals_le_editDistance`,
  `editDistance_le_add_capitals`
- `position?`, `IsNearest`: the position that is picked; `position?_eq_some_iff`
- `position?_eq_small`: candidates as written, and in small letters
- `case_ignored_in_names_only`: which changes of case change nothing
-/

namespace JobScript

namespace EditDistance

variable {a b : List Char} {n : Nat}

/-! ## Section 1: Edits and single characters -/

theorem Edit.map (f : Char → Char) (h : Edit a b) : Edit (a.map f) (b.map f) := by
  cases h with
  | insert before after c => simpa using Edit.insert (before.map f) (after.map f) (f c)
  | delete before after c => simpa using Edit.delete (before.map f) (after.map f) (f c)
  | substitute before after c d =>
    simpa using Edit.substitute (before.map f) (after.map f) (f c) (f d)

/-- Texts whose characters are changed alike are no further apart. -/
theorem Edits.map (f : Char → Char) (h : Edits n a b) : Edits n (a.map f) (b.map f) := by
  induction h with
  | done a => exact .done _
  | next hedit _ ih => exact .next (hedit.map f) ih

theorem Edit.countP_le (p : Char → Bool) (h : Edit a b) : b.countP p ≤ a.countP p + 1 := by
  cases h <;> simp only [List.countP_append, List.countP_cons] <;> split_ifs <;> omega

/-- Every edit brings in one character of a kind at most. -/
theorem Edits.countP_le (p : Char → Bool) (h : Edits n a b) : b.countP p ≤ a.countP p + n := by
  induction h with
  | done a => exact Nat.le_refl _
  | next hedit _ ih =>
    have := hedit.countP_le p
    omega

/-- Small letters are made capitals one by one. -/
theorem edits_map_toLower (l : List Char) :
    Edits (l.countP Char.isUpper) (l.map Char.toLower) l := by
  induction l with
  | nil => exact .done []
  | cons c l ih =>
    by_cases hupper : c.isUpper = true
    · rw [List.countP_cons_of_pos hupper]
      exact .next (.substitute [] (l.map Char.toLower) c.toLower c) (ih.cons c)
    · rw [List.countP_cons_of_neg hupper, List.map_cons, Char.toLower_eq_of_not_isUpper hupper]
      exact ih.cons c

end EditDistance

open EditDistance

namespace Suggestion

variable {needle c d name name' : String} {bound i j : Nat} {candidates candidates' : List String}

/-! ## Section 2: What capitals cost -/

/-- Number of the capital letters of ASCII in a text. -/
def capitals (s : String) : Nat :=
  s.toList.countP Char.isUpper

theorem asciiLower_asciiLower (s : String) :
    Text.asciiLower (Text.asciiLower s) = Text.asciiLower s := by
  apply String.toList_inj.mp
  simp [Text.toList_asciiLower]

theorem capitals_asciiLower (s : String) : capitals (Text.asciiLower s) = 0 := by
  simp [capitals, Text.toList_asciiLower]

/-- A letter is one byte in either case. -/
theorem utf8ByteSize_asciiLower (s : String) :
    (Text.asciiLower s).utf8ByteSize = s.utf8ByteSize := by
  have hchar (c : Char) : c.toLower.utf8Size = c.utf8Size := by
    by_cases hupper : c.isUpper = true
    · have hone : c.utf8Size = 1 ∧ c.toLower.utf8Size = 1 := by
        simp only [Char.utf8Size_eq_one_iff, Char.isUpper, Char.toLower] at hupper ⊢
        grind
      rw [hone.1, hone.2]
    · rw [Char.toLower_eq_of_not_isUpper hupper]
  have hlist (l : List Char) :
      (String.ofList (l.map Char.toLower)).utf8ByteSize = (String.ofList l).utf8ByteSize := by
    induction l with
    | nil => rfl
    | cons c l ih =>
      rw [List.map_cons, String.ofList_cons, String.ofList_cons, String.utf8ByteSize_append,
        String.utf8ByteSize_append, ih, String.utf8ByteSize_singleton,
        String.utf8ByteSize_singleton, hchar]
  rw [Text.asciiLower, hlist, String.ofList_toList]

/-- In small letters, a candidate is no further away. -/
theorem editDistance_asciiLower_le (hneedle : Text.asciiLower needle = needle) (c : String) :
    editDistance needle (Text.asciiLower c) ≤ editDistance needle c := by
  have hedits := (isLeast_editDistance needle c).1.map Char.toLower
  rw [← Text.toList_asciiLower, ← Text.toList_asciiLower, hneedle] at hedits
  exact (isLeast_editDistance _ _).2 hedits

/-- Every capital of a candidate takes an edit. -/
theorem capitals_le_editDistance (hneedle : Text.asciiLower needle = needle) (c : String) :
    capitals c ≤ editDistance needle c := by
  have hcount := (isLeast_editDistance needle c).1.countP_le Char.isUpper
  have hnone : capitals needle = 0 := by rw [← hneedle, capitals_asciiLower]
  change capitals c ≤ capitals needle + _ at hcount
  omega

/-- No capital of a candidate takes more than one edit. -/
theorem editDistance_le_add_capitals (needle c : String) :
    editDistance needle c ≤ editDistance needle (Text.asciiLower c) + capitals c := by
  apply (isLeast_editDistance needle c).2
  refine (isLeast_editDistance needle (Text.asciiLower c)).1.trans ?_
  rw [Text.toList_asciiLower]
  exact edits_map_toLower c.toList

/-! ## Section 3: The position that is picked -/

/-- The position of the candidate that is suggested. -/
def position? (name : String) (candidates : List String) : Option Nat :=
  (similar? name candidates).map candidates.idxOf

/-- The candidate `c` at position `i` is the earliest of the nearest candidates, among those within
the limit whose size does not rule them out. -/
structure IsNearest (needle : String) (bound : Nat) (candidates : List String) (i : Nat)
    (c : String) : Prop where
  getElem? : candidates[i]? = some c
  fits : fits needle bound c = true
  near : editDistance needle c ≤ bound
  le (j : Nat) (d : String) : candidates[j]? = some d → Suggestion.fits needle bound d = true →
    editDistance needle c ≤ editDistance needle d
  lt (j : Nat) (d : String) : candidates[j]? = some d → Suggestion.fits needle bound d = true →
    j < i → editDistance needle c < editDistance needle d

theorem IsNearest.unique (h : IsNearest needle bound candidates i c)
    (h' : IsNearest needle bound candidates j d) : i = j := by
  rcases Nat.lt_trichotomy i j with hij | hij | hij
  · exact absurd (h.le j d h'.getElem? h'.fits) (Nat.not_le.mpr (h'.lt i c h.getElem? h.fits hij))
  · exact hij
  · exact absurd (h'.le i c h.getElem? h.fits) (Nat.not_le.mpr (h.lt j d h'.getElem? h'.fits hij))

theorem isNearest_of_similar? (h : similar? name candidates = some c) :
    IsNearest (Text.asciiLower name) (limit name.utf8ByteSize) candidates
      (candidates.idxOf c) c := by
  have hanswers := answers_nearest?_close (Text.asciiLower name) (limit name.utf8ByteSize) candidates
  rw [similar?] at h
  rw [h] at hanswers
  obtain ⟨hmem, hfits⟩ := List.mem_filter.mp hanswers.mem
  have hle (j : Nat) (d : String) (hd : candidates[j]? = some d)
      (hfits : fits (Text.asciiLower name) (limit name.utf8ByteSize) d = true) :
      editDistance (Text.asciiLower name) c ≤ editDistance (Text.asciiLower name) d :=
    hanswers.le (List.mem_filter.mpr ⟨List.mem_of_getElem? hd, hfits⟩)
  refine ⟨List.getElem?_idxOf hmem, hfits, hanswers.1, hle, ?_⟩
  intro j d hd hdfits hj
  apply Nat.lt_of_le_of_ne (hle j d hd hdfits)
  intro hsame
  -- The first candidate at this distance is the answer, so it stands at the answer's first place
  have hfirst := hanswers.find?_eq
  rw [List.find?_filter] at hfirst
  obtain ⟨-, before, after, rfl, hbefore⟩ := List.find?_eq_some_iff_append.mp hfirst
  have hplace : (before ++ c :: after).idxOf c ≤ before.length := by
    rw [List.idxOf_append]
    split
    · exact List.idxOf_le_length
    · rw [List.idxOf_cons_self, Nat.zero_add]
  rw [List.getElem?_append_left (Nat.lt_of_lt_of_le hj hplace)] at hd
  have hnot := hbefore d (List.mem_of_getElem? hd)
  simp [hdfits, hsame] at hnot

theorem similar?_eq_none_iff : similar? name candidates = none ↔
    ∀ c ∈ candidates, fits (Text.asciiLower name) (limit name.utf8ByteSize) c = true →
      limit name.utf8ByteSize < editDistance (Text.asciiLower name) c := by
  have hanswers := answers_nearest?_close (Text.asciiLower name) (limit name.utf8ByteSize) candidates
  change Answers _ _ _ (similar? name candidates) at hanswers
  constructor
  · intro h c hc hfits
    rw [h] at hanswers
    exact hanswers c (List.mem_filter.mpr ⟨hc, hfits⟩)
  · intro h
    cases hfound : similar? name candidates with
    | none => rfl
    | some c =>
      have hnearest := isNearest_of_similar? hfound
      have hfar := h c (List.mem_of_getElem? hnearest.getElem?) hnearest.fits
      exact absurd hnearest.near (Nat.not_le.mpr hfar)

/-- **The position that is picked** is that of the earliest of the nearest candidates. -/
theorem position?_eq_some_iff : position? name candidates = some i ↔
    ∃ c, IsNearest (Text.asciiLower name) (limit name.utf8ByteSize) candidates i c := by
  constructor
  · intro h
    obtain ⟨c, hc, rfl⟩ := Option.map_eq_some_iff.mp h
    exact ⟨c, isNearest_of_similar? hc⟩
  · rintro ⟨c, hnearest⟩
    cases hfound : similar? name candidates with
    | none =>
      have hfar := similar?_eq_none_iff.mp hfound c (List.mem_of_getElem? hnearest.getElem?)
        hnearest.fits
      exact absurd hnearest.near (Nat.not_le.mpr hfar)
    | some d =>
      rw [position?, hfound, Option.map_some, (isNearest_of_similar? hfound).unique hnearest]

/-! ## Section 4: Changes of case -/

/-- The case of a name does not matter. -/
theorem similar?_of_asciiLower (h : Text.asciiLower name' = Text.asciiLower name)
    (candidates : List String) : similar? name' candidates = similar? name candidates := by
  have hsize : name'.utf8ByteSize = name.utf8ByteSize := by
    rw [← utf8ByteSize_asciiLower, h, utf8ByteSize_asciiLower]
  rw [similar?, similar?, h, hsize]

theorem position?_of_asciiLower (h : Text.asciiLower name' = Text.asciiLower name)
    (candidates : List String) : position? name' candidates = position? name candidates := by
  rw [position?, position?, similar?_of_asciiLower h]

theorem fits_asciiLower (needle : String) (bound : Nat) (c : String) :
    fits needle bound (Text.asciiLower c) = fits needle bound c := by
  rw [fits, fits, utf8ByteSize_asciiLower]

/-- Candidates that are found as they are written are found in small letters. -/
theorem position?_eq_none_of_small
    (h : position? name (candidates.map Text.asciiLower) = none) :
    position? name candidates = none := by
  rw [position?, Option.map_eq_none_iff, similar?_eq_none_iff] at h ⊢
  intro c hc hfits
  rw [← fits_asciiLower] at hfits
  have hfar := h (Text.asciiLower c) (List.mem_map_of_mem hc) hfits
  exact Nat.lt_of_lt_of_le hfar (editDistance_asciiLower_le (asciiLower_asciiLower name) c)

/-- The nearest of the candidates in small letters is the nearest as they are written, if it is
written in small letters itself: no other one comes nearer through its capitals. -/
theorem IsNearest.of_small (hneedle : Text.asciiLower needle = needle)
    (h : IsNearest needle bound (candidates.map Text.asciiLower) i c)
    (hc : candidates[i]? = some c) : IsNearest needle bound candidates i c := by
  have hsmall {j : Nat} {d : String} (hd : candidates[j]? = some d) :
      (candidates.map Text.asciiLower)[j]? = some (Text.asciiLower d) := by
    rw [List.getElem?_map, hd, Option.map_some]
  refine ⟨hc, h.fits, h.near, ?_, ?_⟩
  · intro j d hd hfits
    rw [← fits_asciiLower] at hfits
    exact (h.le j _ (hsmall hd) hfits).trans (editDistance_asciiLower_le hneedle d)
  · intro j d hd hfits hj
    rw [← fits_asciiLower] at hfits
    exact (h.lt j _ (hsmall hd) hfits hj).trans_le (editDistance_asciiLower_le hneedle d)

/-- The same position is picked as among the candidates in small letters, exactly if the candidate
there is the nearest as it is written. -/
theorem position?_eq_small_iff :
    position? name candidates = position? name (candidates.map Text.asciiLower) ↔
      ∀ i, position? name (candidates.map Text.asciiLower) = some i →
        ∃ c, IsNearest (Text.asciiLower name) (limit name.utf8ByteSize) candidates i c := by
  constructor
  · intro h i hi
    exact position?_eq_some_iff.mp (h.trans hi)
  · intro h
    cases hsmall : position? name (candidates.map Text.asciiLower) with
    | none => exact position?_eq_none_of_small hsmall
    | some i => exact position?_eq_some_iff.mpr (h i hsmall)

theorem position?_eq_small
    (h : ∀ i, position? name (candidates.map Text.asciiLower) = some i →
      candidates[i]? = (candidates.map Text.asciiLower)[i]?) :
    position? name candidates = position? name (candidates.map Text.asciiLower) := by
  rw [position?_eq_small_iff]
  intro i hi
  obtain ⟨c, hc⟩ := position?_eq_some_iff.mp hi
  exact ⟨c, hc.of_small (asciiLower_asciiLower name) ((h i hi).trans hc.getElem?)⟩

/-- **Case is ignored in names only.** However the letters of a name are written, the same candidate
is picked. Other case of the candidates makes no difference, as long as the one that is picked among
them in small letters is written so; in general, the position that is picked is the same as among the
candidates in small letters exactly if the candidate there is the nearest as it is written, and
nothing is found that small letters would not find. For capitals keep a candidate away: each of them
takes an edit, though no more than one. -/
theorem case_ignored_in_names_only (name : String) (candidates : List String) :
    let needle := Text.asciiLower name
    let small := candidates.map Text.asciiLower
    (∀ name', Text.asciiLower name' = needle →
      position? name' candidates = position? name candidates) ∧
    (∀ name' candidates', Text.asciiLower name' = needle →
      candidates'.map Text.asciiLower = small →
      (∀ i, position? name small = some i →
        candidates[i]? = small[i]? ∧ candidates'[i]? = small[i]?) →
      position? name' candidates' = position? name candidates) ∧
    (position? name candidates = position? name small ↔
      ∀ i, position? name small = some i →
        ∃ c, IsNearest needle (limit name.utf8ByteSize) candidates i c) ∧
    (position? name small = none → position? name candidates = none) ∧
    ∀ c, capitals c ≤ editDistance needle c ∧
      editDistance needle (Text.asciiLower c) ≤ editDistance needle c ∧
      editDistance needle c ≤ editDistance needle (Text.asciiLower c) + capitals c := by
  intro needle small
  have hneedle : Text.asciiLower needle = needle := asciiLower_asciiLower name
  refine ⟨?names, ?candidates, position?_eq_small_iff, position?_eq_none_of_small, ?capitals⟩
  case names =>
    intro name' hname
    exact position?_of_asciiLower hname candidates
  case candidates =>
    intro name' candidates' hname hcandidates hpicked
    have hsmall : position? name candidates = position? name small :=
      position?_eq_small fun i hi => (hpicked i hi).1
    have hsmall' : position? name candidates' = position? name small := by
      rw [← hcandidates] at hpicked ⊢
      exact position?_eq_small fun i hi => (hpicked i hi).2
    rw [position?_of_asciiLower hname, hsmall', hsmall]
  case capitals =>
    intro c
    exact ⟨capitals_le_editDistance hneedle c, editDistance_asciiLower_le hneedle c,
      editDistance_le_add_capitals needle c⟩

/-- A misspelled name in capitals is near to the same candidate, whatever the case of the other
one. -/
theorem name_in_capitals_answered :
    let candidates := ["increment", "Decrement"]
    let candidates' := ["increment", "DECREMENT"]
    let small := candidates.map Text.asciiLower
    Text.asciiLower "INCREMNT" = Text.asciiLower "Incremnt" ∧
      candidates'.map Text.asciiLower = small ∧
      (∀ i, position? "Incremnt" small = some i →
        candidates[i]? = small[i]? ∧ candidates'[i]? = small[i]?) ∧
      position? "INCREMNT" candidates' = position? "Incremnt" candidates := by
  intro candidates candidates' small
  have hname : Text.asciiLower "INCREMNT" = Text.asciiLower "Incremnt" := by decide +kernel
  have hcandidates : candidates'.map Text.asciiLower = small := by decide +kernel
  have hpicked (i : Nat) (hi : position? "Incremnt" small = some i) :
      candidates[i]? = small[i]? ∧ candidates'[i]? = small[i]? := by
    have hfirst : position? "Incremnt" small = some 0 := by decide +kernel
    obtain rfl := Option.some.inj (hfirst.symm.trans hi)
    decide +kernel
  exact ⟨hname, hcandidates, hpicked, (case_ignored_in_names_only "Incremnt" candidates).2.1
    "INCREMNT" candidates' hname hcandidates hpicked⟩

/-- A name that is right but for its case is not found among names in capitals. -/
theorem candidate_in_capitals_missed :
    ¬ ∀ (name name' : String) (candidates candidates' : List String),
      Text.asciiLower name' = Text.asciiLower name →
      candidates'.map Text.asciiLower = candidates.map Text.asciiLower →
        position? name' candidates' = position? name candidates := by
  intro h
  have hclaim := h "add" "add" ["add"] ["ADD"] rfl (by decide +kernel)
  revert hclaim
  decide +kernel

end Suggestion

end JobScript
