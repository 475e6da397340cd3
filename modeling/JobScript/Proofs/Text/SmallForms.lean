import JobScript.Proofs.Text.Occurrences
import JobScript.Text.Casing

/-!
# Small Forms of Parts of a Text

In small letters, a part of a text is what it is alone, but for its capital sigmas: whether one of
them ends a word may be decided by letters around the part. No letter grows, except for one that
becomes two characters.

## Architecture

- `length_lowerChar`: the length of a letter's small form
- `lowerBetween`: the small form of a part of a text; `lowerAfter_append`
- `SigmasAlike`: the sigmas of a part are read alike in two surroundings
- `prefix_lowerBetween_iff`: small letters of a part in two surroundings
- `KeepsSigmas`: the sigmas of a part are read in the text as in the part alone;
  `occurs_lowerChars_iff`, `prefix_lowerChars_rest_iff`
-/

namespace JobScript.Text

/-! ## Section 1: Length -/

/-- The one letter whose small form is two characters: an i, and a dot above it. -/
def dottedCapitalI : Char := '\u0130'

theorem length_lowerChar (c : Char) :
    (lowerChar c).length = if c = dottedCapitalI then 2 else 1 := by
  split
  case isTrue h =>
    subst h
    decide +kernel
  case isFalse h =>
    -- No other character is in the table of those that become several
    have hcode : (c.toNat == 0x130) = false := by
      rw [beq_eq_false_iff_ne]
      intro hcode
      exact h (Char.ext (UInt32.toNat_inj.mp hcode))
    unfold lowerChar
    split
    · rfl
    · unfold caseImage
      split
      · rfl
      · simp [lowerSpecials, List.lookup_cons, hcode]

/-! ## Section 2: Parts of a text -/

/-- The small form of a character between others; those before it are given nearest first. -/
def smallForm (before : List Char) (c : Char) (after : List Char) : List Char :=
  if c = capitalSigma then [if endsWord before after then 'ς' else 'σ'] else lowerChar c

/-- The small form of a part of a text, given what stands before it, nearest first, and after it. -/
def lowerBetween (before : List Char) : (part after : List Char) → List Char
  | [], _ => []
  | c :: part, after => smallForm before c (part ++ after) ++ lowerBetween (c :: before) part after

theorem lowerAfter_append (before part after : List Char) :
    lowerAfter before (part ++ after)
      = lowerBetween before part after ++ lowerAfter (part.reverse ++ before) after := by
  induction part generalizing before with
  | nil => rfl
  | cons c part ih =>
    simp [lowerAfter, lowerBetween, smallForm, ih]

theorem lowerBetween_nil (before part : List Char) :
    lowerBetween before part [] = lowerAfter before part := by
  simpa [lowerAfter] using (lowerAfter_append before part []).symm

theorem length_smallForm (before : List Char) (c : Char) (after : List Char) :
    (smallForm before c after).length = if c = dottedCapitalI then 2 else 1 := by
  unfold smallForm
  split
  case isTrue h =>
    subst h
    rfl
  case isFalse => exact length_lowerChar c

/-- What stands around a part has no effect on the length of its small form. -/
theorem length_lowerBetween (before part after : List Char) :
    (lowerBetween before part after).length = part.length + part.count dottedCapitalI := by
  induction part generalizing before with
  | nil => rfl
  | cons c part ih =>
    rw [lowerBetween, List.length_append, length_smallForm, ih, List.length_cons, List.count_cons]
    by_cases hc : c = dottedCapitalI
    · simp [hc]
      omega
    · simp [hc]
      omega

theorem length_lowerChars (s : List Char) :
    (lowerChars s).length = s.length + s.count dottedCapitalI := by
  rw [lowerChars, ← lowerBetween_nil, length_lowerBetween]

theorem length_lowerChars_cons (before after : List Char) (c : Char) (s : List Char) :
    (lowerChars (c :: s)).length = (smallForm before c after).length + (lowerChars s).length := by
  rw [length_lowerChars, ← length_lowerBetween before (c :: s) after]
  simp [lowerBetween, length_lowerBetween, length_smallForm, length_lowerChars]

/-- Without capital sigmas, letters become small one by one. -/
theorem lowerChars_eq_flatMap {s : List Char} (h : capitalSigma ∉ s) :
    lowerChars s = s.flatMap lowerChar := by
  unfold lowerChars
  -- What stands before the text has no effect
  generalize [] = before
  induction s generalizing before with
  | nil => rfl
  | cons c s ih =>
    obtain ⟨hc, hs⟩ := not_or.mp (List.mem_cons.not.mp h)
    rw [lowerAfter, if_neg (Ne.symm hc), ih hs, List.flatMap_cons]

/-- A text whose letters are small forms of themselves is its own small form. -/
theorem lowerChars_eq_self {s : List Char} (h : ∀ c ∈ s, c ≠ capitalSigma ∧ lowerChar c = [c]) :
    lowerChars s = s :=
  calc lowerChars s = s.flatMap lowerChar :=
        lowerChars_eq_flatMap fun hsigma => (h _ hsigma).1 rfl
    _ = s.flatMap fun c => [c] := List.flatMap_congr fun c hc => (h c hc).2
    _ = s := List.flatMap_singleton' s

/-! ## Section 3: Sigmas -/

/-- All capital sigmas of a part within reach end a word in one surrounding of the part exactly if
they do in another. A sigma is within reach if fewer small letters stand before it in the part. -/
def SigmasAlike (part : List Char) (reach : Nat) (before after before' after' : List Char) : Prop :=
  ∀ lead rest, part = lead ++ capitalSigma :: rest → (lowerChars lead).length < reach →
    endsWord (lead.reverse ++ before) (rest ++ after)
      = endsWord (lead.reverse ++ before') (rest ++ after')

variable {c : Char} {part before after before' after' : List Char} {reach : Nat}

theorem sigmasAlike_nil : SigmasAlike [] reach before after before' after' := by
  simp [SigmasAlike]

theorem sigmasAlike_cons : SigmasAlike (c :: part) reach before after before' after' ↔
    (c = capitalSigma → 0 < reach →
        endsWord before (part ++ after) = endsWord before' (part ++ after')) ∧
      SigmasAlike part (reach - (smallForm before c (part ++ after)).length) (c :: before) after
        (c :: before') after' := by
  have hreach (lead : List Char) : (lowerChars (c :: lead)).length < reach ↔
      (lowerChars lead).length < reach - (smallForm before c (part ++ after)).length := by
    rw [length_lowerChars_cons before after' c lead, length_smallForm, length_smallForm]
    omega
  constructor
  · intro h
    refine ⟨?_, ?_⟩
    · rintro rfl hpos
      simpa using h [] part rfl (by simpa [lowerChars, lowerAfter] using hpos)
    · rintro lead rest rfl hlead
      simpa using h (c :: lead) rest rfl ((hreach lead).mpr hlead)
  · rintro ⟨hfirst, hrest⟩ lead rest hpart hlead
    cases lead with
    | nil =>
      obtain ⟨rfl, rfl⟩ := List.cons.inj hpart
      exact hfirst rfl (Nat.zero_lt_of_lt hlead)
    | cons d lead =>
      obtain ⟨rfl, rfl⟩ := List.cons.inj hpart
      simpa using hrest lead rest rfl ((hreach lead).mp hlead)

/-- A prefix of two pieces is a prefix of the first, and what is left is one of the second. -/
theorem prefix_append_iff {small piece others : List Char} :
    small <+: piece ++ others ↔
      small.take piece.length <+: piece ∧ small.drop piece.length <+: others := by
  constructor
  · intro h
    refine ⟨?_, ?_⟩
    · simpa using h.take piece.length
    · simpa using h.drop piece.length
  · rintro ⟨htake, hdrop⟩
    by_cases hlength : small.length ≤ piece.length
    · rw [List.take_of_length_le hlength] at htake
      exact htake.trans (List.prefix_append piece others)
    · have hpiece : small.take piece.length = piece := by
        apply htake.eq_of_length
        rw [List.length_take]
        omega
      rw [← List.take_append_drop piece.length small, hpiece]
      exact (List.prefix_append_right_inj piece).mpr hdrop

/-- Small letters of a character in one surrounding are those in another, unless it is a sigma that
ends a word in only one of them. -/
theorem prefix_smallForm_iff {small : List Char}
    (hsmall : small.take (smallForm before c after).length <+: smallForm before c after)
    (before' after' : List Char) :
    small.take (smallForm before c after).length <+: smallForm before' c after' ↔
      (c = capitalSigma → 0 < small.length → endsWord before after = endsWord before' after') := by
  by_cases hc : c = capitalSigma
  · cases small with
    | nil => simp
    | cons x small =>
      simp only [smallForm, if_pos hc] at hsmall ⊢
      cases hbefore : endsWord before after <;> cases hafter : endsWord before' after' <;>
        simp_all
  · simp only [smallForm, if_neg hc] at hsmall ⊢
    simpa [hc] using hsmall

/-- Small letters of a part in one surrounding are those in another exactly if all capital sigmas
within their reach are alike. -/
theorem prefix_lowerBetween_iff {small : List Char}
    (hsmall : small <+: lowerBetween before part after) (before' after' : List Char) :
    small <+: lowerBetween before' part after' ↔
      SigmasAlike part small.length before after before' after' := by
  induction part generalizing small before before' with
  | nil =>
    have hnil : small = [] := List.prefix_nil.mp hsmall
    simp [hnil, sigmasAlike_nil]
  | cons c part ih =>
    rw [lowerBetween, prefix_append_iff] at hsmall
    have hlength : (smallForm before' c (part ++ after')).length
        = (smallForm before c (part ++ after)).length := by
      rw [length_smallForm, length_smallForm]
    rw [lowerBetween, prefix_append_iff, sigmasAlike_cons, hlength]
    apply and_congr
    · exact prefix_smallForm_iff hsmall.1 before' (part ++ after')
    · rw [ih hsmall.2, List.length_drop]

theorem sigmasAlike_comm : SigmasAlike part reach before after before' after' ↔
    SigmasAlike part reach before' after' before after := by
  simp only [SigmasAlike, eq_comm]

/-- All capital sigmas of a part of a text end a word there exactly if they do in the part alone, as
far as so many small letters of the part reach. -/
def KeepsSigmas (before part after : List Char) (reach : Nat) : Prop :=
  SigmasAlike part reach before.reverse after [] []

/-- The needle stands in the text, behind its first `i` characters, and keeps its sigmas there. -/
def KeepsSigmasAt (needle s : List Char) (i : Nat) : Prop :=
  ∃ before after, before.length = i ∧ s = before ++ (needle ++ after) ∧
    KeepsSigmas before needle after (lowerChars needle).length

theorem Occurs.keepsSigmasAt {needle s : List Char} {i : Nat} (h : Occurs needle s i)
    (hplain : capitalSigma ∉ needle) : KeepsSigmasAt needle s i := by
  obtain ⟨before, after, hbefore, hsplit⟩ := h
  refine ⟨before, after, hbefore, hsplit, ?_⟩
  rintro lead rest rfl -
  exact absurd List.mem_append_cons_self hplain

/-- In small letters, a needle stands where it stood exactly if it keeps its sigmas there. -/
theorem occurs_lowerChars_iff (before needle after : List Char) :
    Occurs (lowerChars needle) (lowerChars (before ++ (needle ++ after)))
        (lowerChars before).length ↔
      KeepsSigmas before needle after (lowerChars needle).length := by
  have hbefore : (lowerChars before).length
      = (lowerBetween [] before (needle ++ after)).length := by
    rw [length_lowerChars, length_lowerBetween]
  have hlength : (lowerChars needle).length
      = (lowerBetween before.reverse needle after).length := by
    rw [length_lowerChars, length_lowerBetween]
  have halone : lowerChars needle <+: lowerBetween [] needle [] := by
    rw [lowerBetween_nil]
    exact List.prefix_refl _
  have hsplit : lowerChars (before ++ (needle ++ after)) =
      lowerBetween [] before (needle ++ after) ++
        (lowerBetween before.reverse needle after ++
          lowerAfter (needle.reverse ++ before.reverse) after) := by
    rw [lowerChars, lowerAfter_append, lowerAfter_append, List.append_nil]
  rw [occurs_iff, hsplit, hbefore, List.drop_left, prefix_append_iff, ← hlength, List.take_length,
    List.drop_length, prefix_lowerBetween_iff halone, sigmasAlike_comm]
  simp [KeepsSigmas]

theorem keepsSigmasAt_iff (before needle after : List Char) :
    KeepsSigmasAt needle (before ++ (needle ++ after)) before.length ↔
      KeepsSigmas before needle after (lowerChars needle).length := by
  constructor
  · rintro ⟨before', after', hlength, hsame, hkeeps⟩
    obtain ⟨rfl, hbehind⟩ := List.append_inj hsame hlength.symm
    obtain rfl := List.append_cancel_left hbehind
    exact hkeeps
  · intro hkeeps
    exact ⟨before, after, rfl, rfl, hkeeps⟩

theorem lowerChars_prefix_iff {needle s : List Char} (hfront : needle <+: s) :
    lowerChars needle <+: lowerChars s ↔ KeepsSigmasAt needle s 0 := by
  obtain ⟨after, rfl⟩ := hfront
  rw [← occurs_zero_iff]
  exact (occurs_lowerChars_iff [] needle after).trans (keepsSigmasAt_iff [] needle after).symm

theorem lowerChars_suffix_iff {needle s : List Char} (hend : needle <:+ s) :
    lowerChars needle <:+ lowerChars s ↔ KeepsSigmasAt needle s (s.length - needle.length) := by
  obtain ⟨before, rfl⟩ := hend
  have hplace : (lowerChars (before ++ needle)).length - (lowerChars needle).length
      = (lowerChars before).length := by
    simp only [length_lowerChars, List.length_append, List.count_append]
    omega
  have hroom : (lowerChars needle).length ≤ (lowerChars (before ++ needle)).length := by
    simp only [length_lowerChars, List.length_append, List.count_append]
    omega
  have hstart : (before ++ needle).length - needle.length = before.length := by simp
  rw [← occurs_last_iff hroom, hplace, hstart]
  simpa using (occurs_lowerChars_iff before needle []).trans
    (keepsSigmasAt_iff before needle []).symm

theorem lowerChars_infix {needle s : List Char} (hkeeps : ∃ i, KeepsSigmasAt needle s i) :
    lowerChars needle <:+: lowerChars s := by
  obtain ⟨_, before, after, rfl, rfl, hkeeps⟩ := hkeeps
  exact exists_occurs_iff.mp ⟨_, (occurs_lowerChars_iff before needle after).mpr hkeeps⟩

/-- Small letters found behind the front of a text are small letters of the rest alone exactly if
the rest keeps its sigmas. -/
theorem prefix_lowerChars_rest_iff {front rest small : List Char}
    (hplain : dottedCapitalI ∉ front)
    (hsmall : small <+: (lowerChars (front ++ rest)).drop front.length) :
    small <+: lowerChars rest ↔ KeepsSigmas front rest [] small.length := by
  have hfront : (lowerBetween [] front rest).length = front.length := by
    rw [length_lowerBetween, List.count_eq_zero.mpr hplain, Nat.add_zero]
  rw [lowerChars, lowerAfter_append, ← hfront, List.drop_left, List.append_nil,
    ← lowerBetween_nil] at hsmall
  rw [lowerChars, ← lowerBetween_nil, prefix_lowerBetween_iff hsmall, KeepsSigmas]

end JobScript.Text
