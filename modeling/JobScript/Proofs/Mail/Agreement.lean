import JobScript.Proofs.Mail.Composition

/-!
# Subject and Sender as Fields and as Headers

The subject and the sender of a message are stored twice: as fields, and in header lines. A change
that sets one of them keeps both in step. A header line that is added fills the field as well, but
behind a line of the same name it is not the one that is found: the field says what was given last,
the header what its first line says. They differ exactly if the last change that touched them added
a line that says something else than the line before it.

## Architecture

- `Heading`, `value?`: the two fields that are texts
- `Change`, `build`: all that can be done to a message
- `Change.effect`: what a change means for a heading
- `value?_change`, `header?_change`: field and header after a change
- `AddsBehind`, `AddsOther`: the last change that touched a heading added a line behind another one
- `fields_agree_with_headers`: when the two differ, and what they say then
-/

namespace JobScript.MailMessage

/-! ## Section 1: Changes -/

/-- A field that is one text. -/
inductive Heading where
  | subject
  | sender
  deriving DecidableEq, Repr

def Heading.field : Heading → Field
  | .subject => .subject
  | .sender => .sender

/-- The name that the heading has in the header. -/
def Heading.name (heading : Heading) : String :=
  heading.field.name

def value? (m : MailMessage) : Heading → Option String
  | .subject => m.subject
  | .sender => m.sender

/-- Something that is done to a message. -/
inductive Change where
  | addHeaderLine (line : String)
  | addToRecipient (address : String)
  | addCcRecipient (address : String)
  | setSender (sender : String)
  | setSubject (subject : String)
  | addBodyLine (line : String)
  | addBodyLines (lines : List String)
  | clear
  | clearHeader
  | clearBody

def change (m : MailMessage) : Change → MailMessage
  | .addHeaderLine line => m.addHeaderLine line
  | .addToRecipient address => m.addToRecipient address
  | .addCcRecipient address => m.addCcRecipient address
  | .setSender sender => m.setSender sender
  | .setSubject subject => m.setSubject subject
  | .addBodyLine line => m.addBodyLine line
  | .addBodyLines lines => m.addBodyLines lines
  | .clear => m.clear
  | .clearHeader => m.clearHeader
  | .clearBody => m.clearBody

/-- A new message after some changes. -/
def build (changes : List Change) : MailMessage :=
  changes.foldl change {}

theorem build_concat (changes : List Change) (last : Change) :
    build (changes ++ [last]) = (build changes).change last := by
  rw [build, List.foldl_append]
  rfl

/-- What a change means for a heading. -/
inductive Effect where
  | kept
  | cleared
  /-- The header line of this value is the first one now -/
  | written (value : String)
  /-- A header line of this value is the last one now -/
  | added (value : String)
  deriving DecidableEq

def Change.effect (heading : Heading) : Change → Effect
  | .addHeaderLine line => (headerValue? heading.name line).elim .kept .added
  | .setSubject subject => if heading = .subject then .written subject else .kept
  | .setSender sender => if heading = .sender then .written sender else .kept
  | .clear | .clearHeader => .cleared
  | .addToRecipient _ | .addCcRecipient _ | .addBodyLine _ | .addBodyLines _ | .clearBody => .kept

/-- What the field says after a change, from what it said before. -/
def Effect.onField : Effect → Option String → Option String
  | .kept, said => said
  | .cleared, _ => none
  | .written value, _ | .added value, _ => some value

/-- What the header says after a change, from what it said before. -/
def Effect.onHeader : Effect → Option String → Option String
  | .kept, said => said
  | .cleared, _ => none
  | .written value, _ => some value
  | .added value, said => said.or (some value)

/-! ## Section 2: Lines of one name -/

/-- The header line that is updated is the one that is found. -/
theorem findSome?_updateHeader {name absent value : String} {change : String → String}
    (hchange : ∀ line, headerValue? name (change line) = some value)
    (habsent : headerValue? name absent = some value) (lines : List String) :
    (updateHeader name change absent lines).findSome? (headerValue? name) = some value := by
  induction lines with
  | nil => simp [updateHeader, habsent]
  | cons line lines ih =>
    rw [updateHeader]
    split
    · rw [List.findSome?_cons, hchange line]
    · rename_i hsilent
      rw [List.findSome?_cons, Option.not_isSome_iff_eq_none.mp hsilent]
      exact ih

/-- Updating the header line of one field changes nothing for another. -/
theorem findSome?_updateHeader_of_ne {f g : Field} (hfg : f ≠ g) {absent : String}
    {change : String → String}
    (hchange : ∀ line, (headerValue? f.name line).isSome = true →
      headerValue? g.name (change line) = none)
    (habsent : headerValue? g.name absent = none) (lines : List String) :
    (updateHeader f.name change absent lines).findSome? (headerValue? g.name)
      = lines.findSome? (headerValue? g.name) := by
  induction lines with
  | nil => simp [updateHeader, habsent]
  | cons line lines ih =>
    rw [updateHeader]
    split
    · rename_i hanswers
      rw [List.findSome?_cons, List.findSome?_cons, hchange line hanswers,
        headerValue?_of_other hfg hanswers]
    · rw [List.findSome?_cons, List.findSome?_cons, ih]

theorem header?_replaceHeader (m : MailMessage) (f g : Field) (value : String) :
    (m.replaceHeader f.name value).header? g.name
      = if f = g then some value else m.header? g.name := by
  have hline := headerValue?_line f g value
  rw [header?, headerLines_replaceHeader]
  split
  · rename_i hfg
    subst hfg
    rw [if_pos rfl] at hline
    exact findSome?_updateHeader (fun _ => hline) hline _
  · rename_i hfg
    rw [if_neg hfg] at hline
    exact findSome?_updateHeader_of_ne hfg (fun _ _ => hline) hline _

theorem header?_appendToHeader (m : MailMessage) {f g : Field} (hfg : f ≠ g) (address : String) :
    (m.appendToHeader f.name address).header? g.name = m.header? g.name := by
  have habsent := headerValue?_line f g address
  rw [if_neg hfg] at habsent
  rw [header?, headerLines_appendToHeader]
  apply findSome?_updateHeader_of_ne hfg _ habsent
  intro line hanswers
  rw [String.append_assoc]
  exact headerValue?_append_of_other hfg hanswers _

/-- A line that is added is found if there is no other of its name. -/
theorem header?_addHeaderLine (m : MailMessage) (line name : String) :
    (m.addHeaderLine line).header? name = (m.header? name).or (headerValue? name line) := by
  have hlines := (lines_addHeaderLine m line).1
  rw [header?, hlines, List.findSome?_append, List.findSome?_singleton]
  rfl

theorem value?_fill (m : MailMessage) (value : String) (f : Field) (heading : Heading) :
    (m.fill value f).value? heading
      = if f = heading.field then some value else m.value? heading := by
  cases f <;> cases heading <;> rfl

/-- The field says what the line says, if it is of that name. -/
theorem value?_addHeaderLine (m : MailMessage) (line : String) (heading : Heading) :
    (m.addHeaderLine line).value? heading
      = (headerValue? heading.name line).or (m.value? heading) := by
  have hadded : { m with headerLines := m.headerLines ++ [line] }.value? heading
      = m.value? heading := by
    cases heading <;> rfl
  by_cases hnamed : ∃ f : Field, (headerValue? f.name line).isSome = true
  · obtain ⟨f, hf⟩ := hnamed
    obtain ⟨value, hvalue⟩ := Option.isSome_iff_exists.mp hf
    rw [addHeaderLine_of_header m hvalue, value?_fill, hadded, Heading.name]
    split
    · rename_i hfield
      rw [← hfield, hvalue]
      rfl
    · rename_i hfield
      rw [headerValue?_of_other hfield hf]
      rfl
  · -- Nothing is filled in
    have hnone (f : Field) : headerValue? f.name line = none :=
      Option.not_isSome_iff_eq_none.mp fun hf => hnamed ⟨f, hf⟩
    rw [addHeaderLine_of_no_header m hnone, hadded, Heading.name, hnone]
    rfl

/-! ## Section 3: Field and header after a change -/

theorem value?_change (m : MailMessage) (c : Change) (heading : Heading) :
    (m.change c).value? heading = (c.effect heading).onField (m.value? heading) := by
  cases c with
  | addHeaderLine line =>
    rw [change, value?_addHeaderLine, Change.effect]
    cases headerValue? heading.name line <;> rfl
  | setSubject | setSender | addToRecipient | addCcRecipient | addBodyLine | addBodyLines | clear
  | clearHeader | clearBody =>
    cases heading <;> rfl

theorem header?_change (m : MailMessage) (c : Change) (heading : Heading) :
    (m.change c).header? heading.name
      = (c.effect heading).onHeader (m.header? heading.name) := by
  cases c with
  | addHeaderLine line =>
    rw [change, header?_addHeaderLine, Change.effect]
    cases headerValue? heading.name line with
    | none => exact Option.or_none
    | some value => rfl
  | setSubject subject =>
    refine (header?_replaceHeader _ .subject heading.field subject).trans ?_
    cases heading <;> rfl
  | setSender sender =>
    refine (header?_replaceHeader _ .sender heading.field sender).trans ?_
    cases heading <;> rfl
  | addToRecipient address =>
    refine (header?_appendToHeader _ (f := .to) (g := heading.field) ?_ address).trans rfl
    cases heading <;> decide
  | addCcRecipient address =>
    refine (header?_appendToHeader _ (f := .cc) (g := heading.field) ?_ address).trans rfl
    cases heading <;> decide
  | addBodyLine | addBodyLines | clear | clearHeader | clearBody => rfl

/-! ## Section 4: When the two differ -/

/-- The last change that touched the heading added a line of this value, behind a first line of
another one. -/
def AddsBehind (heading : Heading) (changes : List Change) (first value : String) : Prop :=
  ∃ before c later, changes = before ++ c :: later ∧
    c.effect heading = .added value ∧ (build before).header? heading.name = some first ∧
    first ≠ value ∧ ∀ x ∈ later, x.effect heading = .kept

/-- The last change that touched the heading added a line of it behind a line that says something
else. -/
def AddsOther (heading : Heading) (changes : List Change) : Prop :=
  ∃ first value, AddsBehind heading changes first value

/-- Changes that keep a heading keep what field and header say. -/
theorem said_append_of_kept {heading : Heading} (changes : List Change) {later : List Change}
    (hkept : ∀ x ∈ later, x.effect heading = .kept) :
    (build (changes ++ later)).value? heading = (build changes).value? heading ∧
      (build (changes ++ later)).header? heading.name
        = (build changes).header? heading.name := by
  induction later using List.reverseRecOn with
  | nil => simp
  | append_singleton later x ih =>
    obtain ⟨hvalue, hheader⟩ := ih fun y hy => hkept y (by simp [hy])
    rw [← List.append_assoc, build_concat, value?_change, header?_change, hkept x (by simp)]
    exact ⟨hvalue, hheader⟩

/-- The field says what was added, the header what the line before it says. -/
theorem AddsBehind.said {heading : Heading} {changes : List Change} {first value : String}
    (h : AddsBehind heading changes first value) :
    (build changes).value? heading = some value ∧
      (build changes).header? heading.name = some first := by
  obtain ⟨before, c, later, rfl, hadded, hfirst, -, hkept⟩ := h
  obtain ⟨hvalue, hheader⟩ := said_append_of_kept (before ++ [c]) hkept
  rw [List.append_assoc, List.singleton_append] at hvalue hheader
  rw [hvalue, hheader, build_concat, value?_change, header?_change, hadded, hfirst]
  exact ⟨rfl, rfl⟩

theorem addsOther_concat_of_kept {heading : Heading} {changes : List Change} {last : Change}
    (h : last.effect heading = .kept) :
    AddsOther heading (changes ++ [last]) ↔ AddsOther heading changes := by
  constructor
  · rintro ⟨first, value, before, c, later, hsplit, hadded, hfirst, hne, hkept⟩
    rcases List.eq_nil_or_concat later with rfl | ⟨later, x, rfl⟩
    · -- The change that adds a line is not the one that keeps all
      obtain ⟨-, rfl⟩ := List.append_singleton_inj.mp hsplit
      rw [h] at hadded
      cases hadded
    · rw [List.concat_eq_append, ← List.cons_append, ← List.append_assoc] at hsplit
      obtain ⟨rfl, rfl⟩ := List.append_singleton_inj.mp hsplit
      exact ⟨first, value, before, c, later, rfl, hadded, hfirst, hne,
        fun x hx => hkept x (by simp [hx])⟩
  · rintro ⟨first, value, before, c, later, rfl, hadded, hfirst, hne, hkept⟩
    refine ⟨first, value, before, c, later ++ [last], by simp, hadded, hfirst, hne, ?_⟩
    intro x hx
    rcases List.mem_append.mp hx with hlater | hlast
    · exact hkept x hlater
    · rw [List.mem_singleton.mp hlast, h]

/-- A change that touches the heading is the last one that did. -/
theorem addsOther_concat_of_touched {heading : Heading} {changes : List Change} {last : Change}
    (h : last.effect heading ≠ .kept) :
    AddsOther heading (changes ++ [last]) ↔
      ∃ first value, last.effect heading = .added value ∧
        (build changes).header? heading.name = some first ∧ first ≠ value := by
  constructor
  · rintro ⟨first, value, before, c, later, hsplit, hadded, hfirst, hne, hkept⟩
    rcases List.eq_nil_or_concat later with rfl | ⟨later, x, rfl⟩
    · obtain ⟨rfl, rfl⟩ := List.append_singleton_inj.mp hsplit
      exact ⟨first, value, hadded, hfirst, hne⟩
    · rw [List.concat_eq_append, ← List.cons_append, ← List.append_assoc] at hsplit
      obtain ⟨-, rfl⟩ := List.append_singleton_inj.mp hsplit
      exact absurd (hkept last (by simp)) h
  · rintro ⟨first, value, hadded, hfirst, hne⟩
    exact ⟨first, value, changes, last, [], rfl, hadded, hfirst, hne, by simp⟩

/-- Change by change, a heading stays in both places or in neither, and what touched it last decides
whether both say the same. -/
theorem agree_iff_not_addsOther (changes : List Change) (heading : Heading) :
    ((build changes).value? heading).isSome = ((build changes).header? heading.name).isSome ∧
      ((build changes).value? heading = (build changes).header? heading.name ↔
        ¬AddsOther heading changes) := by
  induction changes using List.reverseRecOn with
  | nil =>
    have hnothing : (build []).value? heading = (build []).header? heading.name := by
      cases heading <;> rfl
    refine ⟨congrArg Option.isSome hnothing, ?_⟩
    simp [hnothing, AddsOther, AddsBehind]
  | append_singleton changes last ih =>
    obtain ⟨hpresent, hagree⟩ := ih
    rw [build_concat, value?_change, header?_change]
    cases heffect : last.effect heading with
    | kept =>
      rw [addsOther_concat_of_kept heffect]
      exact ⟨hpresent, hagree⟩
    | cleared =>
      rw [addsOther_concat_of_touched (by simp [heffect])]
      simp [Effect.onField, Effect.onHeader, heffect]
    | written value =>
      rw [addsOther_concat_of_touched (by simp [heffect])]
      simp [Effect.onField, Effect.onHeader, heffect]
    | added value =>
      -- The line that was added is found only if there was none before
      rw [addsOther_concat_of_touched (by simp [heffect])]
      simp only [Effect.onField, Effect.onHeader, heffect]
      cases (build changes).header? heading.name with
      | none => simp
      | some first => simp [eq_comm]

/-- **Fields and header agree**: a heading is in the fields if and only if it is in the header, and
both say the same unless the last change that touched it added a line behind one that says something
else. Then the field says what was added, and the header what the first line says. -/
theorem fields_agree_with_headers (changes : List Change) (heading : Heading) :
    ((build changes).value? heading).isSome = ((build changes).header? heading.name).isSome ∧
      ((build changes).value? heading = (build changes).header? heading.name ↔
        ¬AddsOther heading changes) ∧
      ∀ first value, AddsBehind heading changes first value →
        (build changes).value? heading = some value ∧
          (build changes).header? heading.name = some first := by
  obtain ⟨hpresent, hagree⟩ := agree_iff_not_addsOther changes heading
  exact ⟨hpresent, hagree, fun _ _ hadds => hadds.said⟩

/-- A subject is set, a line is added behind it, and then a line of the body. -/
theorem subject_line_behind_subject_set :
    let changes : List Change :=
      [.setSubject "a", .addHeaderLine "Subject: b", .addBodyLine "Subject: c"]
    AddsBehind .subject changes "a" "b" ∧ (build changes).subject = some "b" ∧
      (build changes).header? "Subject" = some "a" := by
  intro changes
  have hadds : AddsBehind .subject changes "a" "b" :=
    ⟨[.setSubject "a"], .addHeaderLine "Subject: b", [.addBodyLine "Subject: c"], rfl, by decide,
      by decide, by decide, by simp [Change.effect]⟩
  exact ⟨hadds, (fields_agree_with_headers changes .subject).2.2 "a" "b" hadds⟩

/-- Of two subject lines the field has the second and the header the first. -/
theorem second_subject_line_differs :
    (build [.addHeaderLine "Subject: a", .addHeaderLine "Subject: b"]).subject = some "b" ∧
      (build [.addHeaderLine "Subject: a", .addHeaderLine "Subject: b"]).header? "Subject"
        = some "a" := by
  decide

end JobScript.MailMessage
