import JobScript.Timestamp.Pattern
import Mathlib.Data.List.TakeWhile

/-!
# Patterns Compile to What They Say

A pattern is a sequence of tokens: a maximal run of one letter is a field, two quotes are one quote,
text in quotes stands for itself with its quotes doubled, and every other character stands for
itself. It is compiled to one flat format text, in which tokens stand without anything between them.
Reading that text finds the tokens again, because every specifier is complete and every percent sign
of the pattern is doubled: so a time is written token by token.

## Architecture

- `Formatter.Documented`: what is known of a formatter; `documented_strftime`
- `Formatter.CopiesText`: what is known of it about text alone
- `Formatter.Documented.join`: a compiled text is written token by token
- `Reads`: the tokens of a pattern, by its grammar
- `exists_reads`, `Reads.unique`: every pattern has one sequence of tokens
- `Reads.symbols`: the compiler finds those tokens, or their first fault
- `render_follows_tokens`: written times
-/

namespace JobScript.Timestamp

/-! ## Section 1: Formatters -/

/-- A formatter writes a format text piece by piece: the specifiers that there are as they are
documented, two percent signs as one, and other characters as they stand. -/
structure Formatter.Documented (format : Formatter) : Prop where
  empty : ∀ t, format "" t = some ""
  specifier : ∀ (s : Specifier) rest t,
    format (s.text ++ rest) t = (format rest t).map (s.render t ++ ·)
  percent : ∀ rest t, format ("%%" ++ rest) t = (format rest t).map ("%" ++ ·)
  verbatim : ∀ (c : Char) rest t, c ≠ '%' →
    format (c.toString ++ rest) t = (format rest t).map (c.toString ++ ·)

/-- A formatter copies what is no specifier: two percent signs are written as one, and other
characters as they stand. -/
structure Formatter.CopiesText (format : Formatter) : Prop where
  empty : ∀ t, format "" t = some ""
  percent : ∀ rest t, format ("%%" ++ rest) t = (format rest t).map ("%" ++ ·)
  verbatim : ∀ (c : Char) rest t, c ≠ '%' →
    format (c.toString ++ rest) t = (format rest t).map (c.toString ++ ·)

theorem Formatter.Documented.copiesText {format : Formatter} (h : format.Documented) :
    format.CopiesText :=
  ⟨h.empty, h.percent, h.verbatim⟩

/-- A character that stands for itself is written, whatever follows it. -/
theorem Formatter.CopiesText.literal {format : Formatter} (h : format.CopiesText) (c : Char)
    (rest : String) (t : LocalTime) :
    format ((Token.literal c).text ++ rest) t = (format rest t).map (c.toString ++ ·) := by
  by_cases hc : c = '%'
  · simp only [Token.text, if_pos hc]
    rw [h.percent, hc]
    rfl
  · simp only [Token.text, if_neg hc]
    exact h.verbatim c rest t hc

theorem readFormat_specifier (s : Specifier) (rest : List Char) :
    readFormat (s.text.toList ++ rest) = (readFormat rest).map (.specifier s :: ·) := by
  cases s with
  | month padded | day padded | dayOfYear padded | hour padded | hourOfHalf padded
  | minute padded | second padded =>
    cases padded <;>
      simp [Specifier.text, Specifier.letters, padding, readFormat, Specifier.ofLetter?,
        Specifier.unpadded?]
  | _ => simp [Specifier.text, Specifier.letters, readFormat, Specifier.ofLetter?]

theorem readFormat_literal {c : Char} (h : c ≠ '%') (rest : List Char) :
    readFormat (c :: rest) = (readFormat rest).map (.literal c :: ·) := by
  simp [readFormat, h]

theorem documented_strftime : Formatter.Documented strftime where
  empty t := rfl
  specifier s rest t := by
    rw [strftime, String.toList_append, readFormat_specifier]
    simp [strftime, Item.render, Function.comp_def]
  percent rest t := by
    rw [strftime, String.toList_append]
    simp [readFormat, strftime, Item.render, Function.comp_def]
  verbatim c rest t h := by
    simp [strftime, readFormat_literal h, Item.render, Function.comp_def]

/-! ## Section 2: The grammar -/

/-- A text as it stands inside quotes: every quote of it is doubled. -/
def doubled (text : List Char) : List Char :=
  text.flatMap fun c => if c = quote then [quote, quote] else [c]

/-- Where a pattern ends. -/
inductive PatternEnd where
  | betweenTokens
  | insideQuotes
  deriving DecidableEq, Repr

/-- The tokens of a pattern, and where it ends. -/
inductive Reads : List Char → List Token → PatternEnd → Prop
  | nil : Reads [] [] .betweenTokens
  /-- A maximal run of one letter is a field -/
  | field {letter : Char} {more : Nat} {rest : List Char} {tokens : List Token}
      {ending : PatternEnd} (hletter : Text.isAsciiLetter letter = true)
      (hmaximal : rest.head? ≠ some letter) (hrest : Reads rest tokens ending) :
      Reads (letter :: (List.replicate more letter ++ rest)) (.field letter (more + 1) :: tokens)
        ending
  /-- Two quotes are one -/
  | pair {rest : List Char} {tokens : List Token} {ending : PatternEnd}
      (hrest : Reads rest tokens ending) :
      Reads (quote :: quote :: rest) (.literal quote :: tokens) ending
  /-- Text in quotes stands for itself -/
  | quoted {text rest : List Char} {tokens : List Token} {ending : PatternEnd} (hsome : text ≠ [])
      (hopen : text.head? ≠ some quote) (hclosed : rest.head? ≠ some quote)
      (hrest : Reads rest tokens ending) :
      Reads (quote :: (doubled text ++ quote :: rest)) (text.map .literal ++ tokens) ending
  /-- The quotes around a text were never closed -/
  | unterminated {text : List Char} (hopen : text.head? ≠ some quote) :
      Reads (quote :: doubled text) (text.map .literal) .insideQuotes
  /-- Every other character stands for itself -/
  | literal {c : Char} {rest : List Char} {tokens : List Token} {ending : PatternEnd}
      (hletter : Text.isAsciiLetter c = false) (hquote : c ≠ quote)
      (hrest : Reads rest tokens ending) : Reads (c :: rest) (.literal c :: tokens) ending

theorem doubled_cons_quote (text : List Char) :
    doubled (quote :: text) = quote :: quote :: doubled text := by
  simp [doubled]

theorem doubled_cons_of_ne {c : Char} (hc : c ≠ quote) (text : List Char) :
    doubled (c :: text) = c :: doubled text := by
  simp [doubled, hc]

theorem head?_doubled (text : List Char) : (doubled text).head? = text.head? := by
  cases text with
  | nil => rfl
  | cons c text => by_cases hc : c = quote <;> simp [doubled, hc]

theorem head?_doubled_append {text : List Char} (hsome : text ≠ []) (rest : List Char) :
    (doubled text ++ rest).head? = text.head? := by
  rw [List.head?_append, head?_doubled, Option.or_of_isSome]
  rwa [List.isSome_head?]

/-- The text that stands in front of a closing quote, and what follows that quote if there is
one. -/
def unquote : List Char → List Char × Option (List Char)
  | [] => ([], none)
  | '\x27' :: '\x27' :: rest => (quote :: (unquote rest).1, (unquote rest).2)
  | '\x27' :: rest => ([], some rest)
  | c :: rest => (c :: (unquote rest).1, (unquote rest).2)

theorem unquote_pair (rest : List Char) :
    unquote (quote :: quote :: rest) = (quote :: (unquote rest).1, (unquote rest).2) := rfl

theorem unquote_closed {rest : List Char} (hclosed : rest.head? ≠ some quote) :
    unquote (quote :: rest) = ([], some rest) := by
  rw [quote, unquote]
  rintro after rfl
  exact hclosed rfl

theorem unquote_cons_of_ne {c : Char} (hc : c ≠ quote) (rest : List Char) :
    unquote (c :: rest) = (c :: (unquote rest).1, (unquote rest).2) := by
  rw [unquote]
  · exact fun _ h _ => hc h
  · exact hc

theorem unquote_doubled (text : List Char) : unquote (doubled text) = (text, none) := by
  induction text with
  | nil => rfl
  | cons c text ih =>
    by_cases hc : c = quote
    · rw [hc, doubled_cons_quote, unquote_pair, ih]
    · rw [doubled_cons_of_ne hc, unquote_cons_of_ne hc, ih]

theorem unquote_doubled_append {rest : List Char} (hclosed : rest.head? ≠ some quote)
    (text : List Char) : unquote (doubled text ++ quote :: rest) = (text, some rest) := by
  induction text with
  | nil => exact unquote_closed hclosed
  | cons c text ih =>
    by_cases hc : c = quote
    · rw [hc, doubled_cons_quote, List.cons_append, List.cons_append, unquote_pair, ih]
    · rw [doubled_cons_of_ne hc, List.cons_append, unquote_cons_of_ne hc, ih]

/-- Any characters are a text inside quotes, up to the quote that closes it if there is one. -/
theorem exists_doubled (s : List Char) :
    ∃ text, s = doubled text ∨
      ∃ rest, rest.head? ≠ some quote ∧ s = doubled text ++ quote :: rest := by
  fun_induction unquote s with
  | case1 => exact ⟨[], .inl rfl⟩
  | case2 rest ih =>
    obtain ⟨text, rfl | ⟨rest, hclosed, rfl⟩⟩ := ih
    · exact ⟨quote :: text, .inl (doubled_cons_quote text).symm⟩
    · exact ⟨quote :: text, .inr ⟨rest, hclosed, by rw [doubled_cons_quote]; rfl⟩⟩
  | case3 rest hmore =>
    refine ⟨[], .inr ⟨rest, ?_, rfl⟩⟩
    intro hhead
    obtain ⟨after, rfl⟩ := List.head?_eq_some_iff.mp hhead
    exact hmore after rfl
  | case4 c rest hpair hquote ih =>
    obtain ⟨text, rfl | ⟨rest, hclosed, rfl⟩⟩ := ih
    · exact ⟨c :: text, .inl (doubled_cons_of_ne hquote text).symm⟩
    · exact ⟨c :: text, .inr ⟨rest, hclosed, by rw [doubled_cons_of_ne hquote]; rfl⟩⟩

/-! ## Section 3: The tokens of a pattern -/

theorem exists_run (c : Char) (s : List Char) :
    ∃ more rest, s = List.replicate more c ++ rest ∧ rest.head? ≠ some c := by
  induction s with
  | nil => exact ⟨0, [], rfl, by simp⟩
  | cons d s ih =>
    by_cases hd : d = c
    · obtain ⟨more, rest, rfl, hrest⟩ := ih
      exact ⟨more + 1, rest, by rw [hd]; rfl, hrest⟩
    · exact ⟨0, d :: s, rfl, by simpa using hd⟩

theorem run_unique {c : Char} {more more' : Nat} {rest rest' : List Char}
    (hrest : rest.head? ≠ some c) (hrest' : rest'.head? ≠ some c)
    (h : List.replicate more c ++ rest = List.replicate more' c ++ rest') :
    more = more' ∧ rest = rest' := by
  induction more generalizing more' with
  | zero =>
    cases more' with
    | zero => exact ⟨rfl, h⟩
    | succ more' =>
      obtain rfl : rest = _ := h
      exact absurd rfl hrest
  | succ more ih =>
    cases more' with
    | zero =>
      obtain rfl : _ = rest' := h
      exact absurd rfl hrest'
    | succ more' =>
      obtain ⟨rfl, rfl⟩ := ih (List.cons.inj h).2
      exact ⟨rfl, rfl⟩

namespace Reads

variable {c : Char} {s : List Char} {tokens : List Token} {ending : PatternEnd}

/-- A pattern that begins with a letter begins with its field. -/
theorem cases_letter (h : Reads (c :: s) tokens ending) (hletter : Text.isAsciiLetter c = true) :
    ∃ more rest others, s = List.replicate more c ++ rest ∧ rest.head? ≠ some c ∧
      tokens = .field c (more + 1) :: others ∧ Reads rest others ending := by
  cases h with
  | field _ hmaximal hrest => exact ⟨_, _, _, rfl, hmaximal, rfl, hrest⟩
  | pair | quoted | unterminated => cases hletter
  | literal hother => cases hother.symm.trans hletter

/-- A pattern that begins with a quote begins with two of them, or with text in quotes. -/
theorem cases_quote (h : Reads (quote :: s) tokens ending) :
    (∃ rest others, s = quote :: rest ∧ tokens = .literal quote :: others ∧
        Reads rest others ending) ∨
      s.head? ≠ some quote ∧
        ((unquote s).2 = none ∧ tokens = (unquote s).1.map .literal ∧ ending = .insideQuotes ∨
          ∃ rest others, (unquote s).2 = some rest ∧
            tokens = (unquote s).1.map .literal ++ others ∧ Reads rest others ending) := by
  cases h with
  | field hletter => cases hletter
  | pair hrest => exact .inl ⟨_, _, rfl, rfl, hrest⟩
  | @quoted text rest others _ hsome hopen hclosed hrest =>
    refine .inr ⟨?_, .inr ⟨rest, others, ?_, ?_, hrest⟩⟩
    · rw [head?_doubled_append hsome]
      exact hopen
    · rw [unquote_doubled_append hclosed]
    · rw [unquote_doubled_append hclosed]
  | unterminated hopen =>
    refine .inr ⟨?_, .inl ⟨?_, ?_, rfl⟩⟩
    · rw [head?_doubled]
      exact hopen
    · rw [unquote_doubled]
    · rw [unquote_doubled]
  | literal hletter hquote => exact absurd rfl hquote

/-- Any other character is read as itself. -/
theorem cases_literal (h : Reads (c :: s) tokens ending) (hletter : Text.isAsciiLetter c = false)
    (hquote : c ≠ quote) : ∃ others, tokens = .literal c :: others ∧ Reads s others ending := by
  cases h with
  | field hletter' => cases hletter.symm.trans hletter'
  | pair | quoted | unterminated => exact absurd rfl hquote
  | literal _ _ hrest => exact ⟨_, rfl, hrest⟩

theorem unique {p : List Char} {tokens : List Token} {ending : PatternEnd}
    (h : Reads p tokens ending) {tokens' : List Token} {ending' : PatternEnd}
    (h' : Reads p tokens' ending') : tokens' = tokens ∧ ending' = ending := by
  induction h generalizing tokens' ending' with
  | nil =>
    cases h'
    exact ⟨rfl, rfl⟩
  | field hletter hmaximal hrest ih =>
    obtain ⟨more', rest', others, hsplit, hmaximal', rfl, hrest'⟩ := h'.cases_letter hletter
    obtain ⟨rfl, rfl⟩ := run_unique hmaximal hmaximal' hsplit
    obtain ⟨rfl, rfl⟩ := ih hrest'
    exact ⟨rfl, rfl⟩
  | pair hrest ih =>
    rcases h'.cases_quote with ⟨rest', others, hsplit, rfl, hrest'⟩ | ⟨hopen, -⟩
    · obtain rfl := (List.cons.inj hsplit).2
      obtain ⟨rfl, rfl⟩ := ih hrest'
      exact ⟨rfl, rfl⟩
    · exact absurd rfl hopen
  | @quoted text rest others _ hsome hopen hclosed hrest ih =>
    have hunquote := unquote_doubled_append hclosed text
    rcases h'.cases_quote with ⟨rest', others', hsplit, -⟩ | ⟨-, hinside⟩
    · rw [← head?_doubled_append hsome, hsplit] at hopen
      exact absurd rfl hopen
    · rw [hunquote] at hinside
      rcases hinside with ⟨hnone, -⟩ | ⟨rest', others', hsome', rfl, hrest'⟩
      · cases hnone
      · cases hsome'
        obtain ⟨rfl, rfl⟩ := ih hrest'
        exact ⟨rfl, rfl⟩
  | @unterminated text hopen =>
    have hunquote := unquote_doubled text
    rcases h'.cases_quote with ⟨rest', others', hsplit, -⟩ | ⟨-, hinside⟩
    · rw [← head?_doubled, hsplit] at hopen
      exact absurd rfl hopen
    · rw [hunquote] at hinside
      rcases hinside with ⟨-, rfl, rfl⟩ | ⟨rest', others', hsome', -⟩
      · exact ⟨rfl, rfl⟩
      · cases hsome'
  | literal hletter hquote hrest ih =>
    obtain ⟨others, rfl, hrest'⟩ := h'.cases_literal hletter hquote
    obtain ⟨rfl, rfl⟩ := ih hrest'
    exact ⟨rfl, rfl⟩

end Reads

/-- Every pattern has a sequence of tokens. -/
theorem exists_reads (p : List Char) : ∃ tokens ending, Reads p tokens ending := by
  induction hlength : p.length using Nat.strong_induction_on generalizing p with
  | _ n ih =>
    cases p with
    | nil => exact ⟨_, _, .nil⟩
    | cons c s =>
      have shorter {rest : List Char} (h : rest <:+ s) :
          ∃ tokens ending, Reads rest tokens ending :=
        ih rest.length (hlength ▸ Nat.lt_succ_of_le h.length_le) rest rfl
      by_cases hletter : Text.isAsciiLetter c = true
      · obtain ⟨more, rest, rfl, hmaximal⟩ := exists_run c s
        obtain ⟨tokens, ending, hrest⟩ := shorter (List.suffix_append _ rest)
        exact ⟨_, _, .field hletter hmaximal hrest⟩
      by_cases hquote : c = quote
      · subst hquote
        by_cases hopen : s.head? = some quote
        · obtain ⟨rest, rfl⟩ := List.head?_eq_some_iff.mp hopen
          obtain ⟨tokens, ending, hrest⟩ := shorter (List.suffix_cons _ rest)
          exact ⟨_, _, .pair hrest⟩
        · obtain ⟨text, rfl | ⟨rest, hclosed, rfl⟩⟩ := exists_doubled s
          · exact ⟨_, _, .unterminated (head?_doubled text ▸ hopen)⟩
          · -- Without any text, the quotes would be a pair
            have hsome : text ≠ [] := by
              rintro rfl
              exact hopen rfl
            obtain ⟨tokens, ending, hrest⟩ :=
              shorter ((List.suffix_cons quote rest).trans (List.suffix_append _ _))
            rw [head?_doubled_append hsome] at hopen
            exact ⟨_, _, .quoted hsome hopen hclosed hrest⟩
      · obtain ⟨tokens, ending, hrest⟩ := shorter List.suffix_rfl
        exact ⟨_, _, .literal (Bool.eq_false_iff.mpr hletter) hquote hrest⟩

/-! ## Section 4: The compiler -/

/-- What is wrong with a token: no field has its letter. -/
def Token.fault? : Token → Option PatternFault
  | .field letter _ =>
    if (Field.ofLetter? letter).isSome then none else some (.unsupportedLetter letter)
  | .literal _ => none

/-- The first fault of a pattern with these tokens. -/
def faultOf (tokens : List Token) (ending : PatternEnd) : Option PatternFault :=
  (tokens.findSome? Token.fault?).or
    (if ending = .insideQuotes then some .unterminatedQuote else none)

theorem faultOf_cons (token : Token) (tokens : List Token) (ending : PatternEnd) :
    faultOf (token :: tokens) ending = token.fault?.or (faultOf tokens ending) := by
  rw [faultOf, List.findSome?_cons]
  cases token.fault? <;> rfl

theorem faultOf_literals (text : List Char) (tokens : List Token) (ending : PatternEnd) :
    faultOf (text.map .literal ++ tokens) ending = faultOf tokens ending := by
  induction text with
  | nil => rfl
  | cons c text ih => rwa [List.map_cons, List.cons_append, faultOf_cons]

section Symbols

variable {c : Char} {s rest : List Char}

theorem symbols_pair (rest : List Char) :
    symbols (quote :: quote :: rest) = (symbols rest).map (.literal quote :: ·) := by
  rw [quote, symbols]
  cases symbols rest <;> rfl

theorem symbols_open (hopen : s.head? ≠ some quote) : symbols (quote :: s) = quoted s := by
  rw [quote, symbols]
  rintro after rfl
  exact hopen rfl

theorem symbols_of_ne (hquote : c ≠ quote) (s : List Char) :
    symbols (c :: s) =
      if Text.isAsciiLetter c then
        if (Field.ofLetter? c).isSome then (symbols s).map (.letter c :: ·)
        else .error (.unsupportedLetter c)
      else (symbols s).map (.literal c :: ·) := by
  rw [symbols]
  · cases symbols s <;> rfl
  · exact fun _ h _ => hquote h
  · exact hquote

theorem ne_quote_of_isAsciiLetter (hletter : Text.isAsciiLetter c = true) : c ≠ quote := by
  rintro rfl
  cases hletter

theorem symbols_run (hletter : Text.isAsciiLetter c = true)
    (hfield : (Field.ofLetter? c).isSome = true) (run : Nat) (rest : List Char) :
    symbols (List.replicate run c ++ rest) =
      (symbols rest).map (List.replicate run (.letter c) ++ ·) := by
  induction run with
  | zero =>
    rw [List.replicate_zero, List.nil_append]
    cases symbols rest <;> rfl
  | succ run ih =>
    rw [List.replicate_succ, List.cons_append, symbols_of_ne (ne_quote_of_isAsciiLetter hletter),
      if_pos hletter, if_pos hfield, ih]
    cases symbols rest <;> rfl

theorem quoted_pair (rest : List Char) :
    quoted (quote :: quote :: rest) = (quoted rest).map (.literal quote :: ·) := by
  rw [quote, quoted]
  cases quoted rest <;> rfl

theorem quoted_closed (hclosed : rest.head? ≠ some quote) :
    quoted (quote :: rest) = symbols rest := by
  rw [quote, quoted]
  rintro after rfl
  exact hclosed rfl

theorem quoted_of_ne (hquote : c ≠ quote) (s : List Char) :
    quoted (c :: s) = (quoted s).map (.literal c :: ·) := by
  rw [quoted]
  · cases quoted s <;> rfl
  · exact fun _ h _ => hquote h
  · exact hquote

theorem quoted_doubled (text : List Char) : quoted (doubled text) = .error .unterminatedQuote := by
  induction text with
  | nil => rfl
  | cons c text ih =>
    by_cases hc : c = quote
    · rw [hc, doubled_cons_quote, quoted_pair, ih]
      rfl
    · rw [doubled_cons_of_ne hc, quoted_of_ne hc, ih]
      rfl

theorem quoted_doubled_append (hclosed : rest.head? ≠ some quote) (text : List Char) :
    quoted (doubled text ++ quote :: rest) = (symbols rest).map (text.map .literal ++ ·) := by
  induction text with
  | nil =>
    refine (quoted_closed hclosed).trans ?_
    cases symbols rest <;> rfl
  | cons c text ih =>
    by_cases hc : c = quote
    · rw [hc, doubled_cons_quote, List.cons_append, List.cons_append, quoted_pair, ih]
      cases symbols rest <;> rfl
    · rw [doubled_cons_of_ne hc, List.cons_append, quoted_of_ne hc, ih]
      cases symbols rest <;> rfl

end Symbols

theorem tokens_literals (text : List Char) (rest : List Symbol) :
    tokens (text.map .literal ++ rest) = text.map .literal ++ tokens rest := by
  induction text with
  | nil => rfl
  | cons c text ih => rw [List.map_cons, List.cons_append, tokens, ih]; rfl

/-- A run of one letter is one field, unless the field behind it is of the same letter. -/
theorem tokens_run {c : Char} {rest : List Symbol}
    (hmaximal : ∀ run others, tokens rest ≠ .field c run :: others) (more : Nat) :
    tokens (List.replicate (more + 1) (.letter c) ++ rest)
      = .field c (more + 1) :: tokens rest := by
  induction more with
  | zero =>
    rw [List.replicate_succ, List.replicate_zero, List.singleton_append, tokens]
    split
    · rename_i d run others htokens
      rw [if_neg, htokens]
      rintro rfl
      exact hmaximal run others htokens
    · rfl
  | succ more ih =>
    rw [List.replicate_succ, List.cons_append, tokens, ih]
    exact if_pos rfl

namespace Reads

variable {p : List Char} {tokens : List Token} {ending : PatternEnd}

/-- A pattern whose first token is a field begins with the letter of the field. -/
theorem head?_of_field {c : Char} {run : Nat} {others : List Token}
    (h : Reads p (.field c run :: others) ending) : p.head? = some c := by
  generalize htokens : Token.field c run :: others = tokens at h
  cases h with
  | field =>
    cases htokens
    rfl
  | @quoted text _ _ _ hsome =>
    cases text with
    | nil => exact absurd rfl hsome
    | cons => cases htokens
  | @unterminated text =>
    cases text with
    | nil => cases htokens
    | cons => cases htokens
  | nil | pair | literal => cases htokens

end Reads

/-- The symbols of a pattern make these tokens; if one of the tokens or the ending is at fault, the
first fault was found instead. -/
def Finds (found : Except PatternFault (List Symbol)) (tokens : List Token)
    (ending : PatternEnd) : Prop :=
  match faultOf tokens ending with
  | some fault => found = .error fault
  | none => ∃ symbols, found = .ok symbols ∧ Timestamp.tokens symbols = tokens

/-- Symbols put in front, as they are read from the beginning of a pattern. -/
theorem Finds.prepend {found : Except PatternFault (List Symbol)} {rest tokens : List Token}
    {ending : PatternEnd} (h : Finds found rest ending) (front : List Symbol)
    (hfault : faultOf tokens ending = faultOf rest ending)
    (htokens : ∀ symbols, Timestamp.tokens symbols = rest →
      Timestamp.tokens (front ++ symbols) = tokens) :
    Finds (found.map (front ++ ·)) tokens ending := by
  unfold Finds at h ⊢
  rw [hfault]
  cases hrest : faultOf rest ending with
  | some fault =>
    rw [hrest] at h
    rw [h]
    rfl
  | none =>
    rw [hrest] at h
    obtain ⟨symbols, rfl, hsymbols⟩ := h
    exact ⟨front ++ symbols, rfl, htokens symbols hsymbols⟩

/-- The compiler finds the tokens of a pattern, or the first fault in them. -/
theorem Reads.finds {p : List Char} {tokens : List Token} {ending : PatternEnd}
    (h : Reads p tokens ending) : Finds (symbols p) tokens ending := by
  induction h with
  | nil => exact ⟨[], rfl, rfl⟩
  | @field letter more rest others ending hletter hmaximal hrest ih =>
    cases hfield : (Field.ofLetter? letter).isSome with
    | false =>
      -- The letter itself is the first fault
      rw [Finds, faultOf_cons, Token.fault?, hfield, symbols_of_ne
        (ne_quote_of_isAsciiLetter hletter), if_pos hletter, hfield]
      rfl
    | true =>
      have hrun := symbols_run hletter hfield (more + 1) rest
      rw [List.replicate_succ, List.cons_append] at hrun
      rw [hrun]
      refine ih.prepend _ ?fault ?front
      case fault =>
        rw [faultOf_cons, Token.fault?, hfield]
        rfl
      case front =>
        rintro symbols rfl
        apply tokens_run
        intro run behind htokens
        rw [htokens] at hrest
        exact hmaximal hrest.head?_of_field
  | @pair rest others ending hrest ih =>
    rw [symbols_pair]
    refine ih.prepend [.literal quote] (faultOf_literals [quote] others ending) ?_
    rintro symbols rfl
    exact tokens_literals [quote] symbols
  | @quoted text rest others ending hsome hopen hclosed hrest ih =>
    have hopen' : (doubled text ++ quote :: rest).head? ≠ some quote := by
      rwa [head?_doubled_append hsome]
    rw [symbols_open hopen', quoted_doubled_append hclosed]
    refine ih.prepend _ (faultOf_literals text others ending) ?_
    rintro symbols rfl
    exact tokens_literals text symbols
  | @unterminated text hopen =>
    rw [symbols_open (head?_doubled text ▸ hopen), quoted_doubled, Finds]
    have hfault := faultOf_literals text [] .insideQuotes
    rw [List.append_nil] at hfault
    rw [hfault]
    rfl
  | @literal c rest others ending hletter hquote hrest ih =>
    rw [symbols_of_ne hquote, hletter]
    refine ih.prepend [.literal c] (faultOf_literals [c] others ending) ?_
    rintro symbols rfl
    exact tokens_literals [c] symbols

/-! ## Section 5: Written times -/

/-- What a token stands for at a time. -/
def Token.render (t : LocalTime) : Token → String
  | .field letter run =>
    (Field.ofLetter? letter).elim "" fun field => (field.specifier run).render t
  | .literal c => c.toString

/-- The texts of tokens, one after the other, are written token by token: none of them runs into the
next. -/
theorem Formatter.Documented.join {format : Formatter} (h : format.Documented)
    (tokens : List Token) (t : LocalTime) :
    format (String.join (tokens.map Token.text)) t
      = some (String.join (tokens.map (Token.render t))) := by
  induction tokens with
  | nil => exact h.empty t
  | cons token tokens ih =>
    rw [List.map_cons, List.map_cons, String.join_cons, String.join_cons]
    cases token with
    | field letter run =>
      cases hfield : Field.ofLetter? letter with
      | none => simpa [Token.text, Token.render, hfield] using ih
      | some field =>
        simp only [Token.text, Token.render, hfield, Option.elim]
        rw [h.specifier, ih, Option.map_some]
    | literal c => rw [h.copiesText.literal, ih, Option.map_some, Token.render]

/-- A letter of the pattern stands for no field, or its last quotes are not closed. -/
def Faulty (tokens : List Token) (ending : PatternEnd) : Prop :=
  (∃ letter run, .field letter run ∈ tokens ∧ Field.ofLetter? letter = none) ∨
    ending = .insideQuotes

theorem Token.fault?_eq_none_iff {token : Token} :
    token.fault? = none ↔
      ∀ letter run, token = .field letter run → Field.ofLetter? letter ≠ none := by
  cases token with
  | field letter run => simp [fault?, Option.isSome_iff_ne_none]
  | literal c => simp [fault?]

theorem faultOf_eq_none_iff {tokens : List Token} {ending : PatternEnd} :
    faultOf tokens ending = none ↔ ¬Faulty tokens ending := by
  rw [faultOf, Option.or_eq_none_iff, List.findSome?_eq_none_iff, Faulty, not_or]
  apply and_congr
  · simp only [Token.fault?_eq_none_iff]
    grind
  · simp

/-- **Patterns are written token by token**: every pattern has one sequence of tokens. If all
letters among them stand for fields, and the last quotes are closed, then a time is written as what
the tokens stand for, one after the other; otherwise the first fault is reported, and there is no
other failure. -/
theorem render_follows_tokens {format : Formatter} (hformat : format.Documented)
    (pattern : String) :
    ∃ tokens ending, Reads pattern.toList tokens ending ∧
      (∀ tokens' ending', Reads pattern.toList tokens' ending' →
        tokens' = tokens ∧ ending' = ending) ∧
      (∀ t, (∃ cause, render format pattern t = .error cause) ↔ Faulty tokens ending) ∧
      (∀ t cause, render format pattern t = .error cause → ∃ fault,
        faultOf tokens ending = some fault ∧
          cause = .invalidArgument "timestamp" fault.message) ∧
      (¬Faulty tokens ending → ∀ t,
        render format pattern t = .ok (String.join (tokens.map (Token.render t)))) ∧
      ∀ text, compile pattern = .ok text → ∀ t, (format text t).isSome = true := by
  obtain ⟨tokens, ending, hreads⟩ := exists_reads pattern.toList
  have hfinds := hreads.finds
  refine ⟨tokens, ending, hreads, fun _ _ h => hreads.unique h, ?_⟩
  cases hfault : faultOf tokens ending with
  | some fault =>
    have hfaulty : Faulty tokens ending := by
      by_contra hnot
      rw [faultOf_eq_none_iff.mpr hnot] at hfault
      cases hfault
    rw [Finds, hfault] at hfinds
    have hcompile : compile pattern = .error fault := by rw [compile, hfinds]; rfl
    have hrender (t : LocalTime) :
        render format pattern t = .error (.invalidArgument "timestamp" fault.message) := by
      rw [render, hcompile]
    refine ⟨fun t => iff_of_true ⟨_, hrender t⟩ hfaulty, ?_, fun hnot => absurd hfaulty hnot, ?_⟩
    · intro t cause hcause
      exact ⟨fault, rfl, Except.error.inj (hcause.symm.trans (hrender t))⟩
    · intro text htext
      cases hcompile.symm.trans htext
  | none =>
    have hsound : ¬Faulty tokens ending := faultOf_eq_none_iff.mp hfault
    rw [Finds, hfault] at hfinds
    obtain ⟨symbols, hsymbols, rfl⟩ := hfinds
    have hcompile :
        compile pattern = .ok (String.join ((Timestamp.tokens symbols).map Token.text)) := by
      rw [compile, hsymbols]
      rfl
    have hjoin := hformat.join (Timestamp.tokens symbols)
    have hrender (t : LocalTime) : render format pattern t
        = .ok (String.join ((Timestamp.tokens symbols).map (Token.render t))) := by
      simp only [render, hcompile, hjoin]
    refine ⟨?_, ?_, fun _ => hrender, ?_⟩
    · intro t
      refine iff_of_false ?_ hsound
      rintro ⟨cause, hcause⟩
      cases hcause.symm.trans (hrender t)
    · intro t cause hcause
      cases hcause.symm.trans (hrender t)
    · intro text htext t
      obtain rfl := Except.ok.inj (hcompile.symm.trans htext)
      rw [hjoin]
      rfl

/-- An hour, and behind it quoted text with a quote and a percent sign in it. -/
theorem quoted_percent_sign_written :
    Formatter.Documented strftime ∧
      render strftime "h'o''%'" (LocalTime.ofUnix 32400000 0) = .ok "9o'%" := by
  refine ⟨documented_strftime, ?_⟩
  obtain ⟨tokens, ending, -, hunique, -, -, hrender, -⟩ :=
    render_follows_tokens documented_strftime "h'o''%'"
  have hinside : Reads (quote :: (doubled ['o', quote, '%'] ++ quote :: []))
      [.literal 'o', .literal quote, .literal '%'] .betweenTokens :=
    .quoted (by decide) (by decide) (by decide) .nil
  have hreads : Reads "h'o''%'".toList
      [.field 'h' 1, .literal 'o', .literal quote, .literal '%'] .betweenTokens :=
    @Reads.field 'h' 0 _ _ _ rfl (by decide) hinside
  obtain ⟨rfl, rfl⟩ := hunique _ _ hreads
  rw [hrender]
  · decide
  · simp [Faulty, Field.ofLetter?]

end JobScript.Timestamp
