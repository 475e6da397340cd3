import JobScript.Mail.Message
import Mathlib.Data.List.Induction
import Mathlib.Data.List.Nodup

/-!
# Composed Messages and Their Header Lines

A message that is composed by setting its fields writes every field to one header line, at the
place where the field was first set. Reading those lines one after the other gives the fields
back.

## Architecture

- `Mail.pieces_append`, `Mail.addresses_intercalate`: a list of addresses read as it was written
- `Field`, `MailMessage.line`: the four fields that have a header line, and that line
- `headerValue?_line`: a header line answers to the name of its field and to no other
- `WritesFields`: the header lines are the fields written out; every edit keeps this
- `read_headerLines_compose`: the lines read back
-/

namespace JobScript

namespace Mail

/-! ## Section 1: Lists of addresses -/

/-- A text that can stand as one address in a list of recipients. -/
structure Recipient where
  address : String
  wellFormed : isEmailAddress address = true
  noComma : ',' ∉ address.toList

/-- Every text of the list can stand as an address in it. -/
def AreRecipients (list : List String) : Prop :=
  ∀ address ∈ list, ∃ r : Recipient, r.address = address

theorem areRecipients_nil : AreRecipients [] := by
  simp [AreRecipients]

theorem areRecipients_concat {list : List String} {r : Recipient} :
    AreRecipients (list ++ [r.address]) ↔ AreRecipients list := by
  constructor
  · intro h address haddress
    exact h address (List.mem_append_left _ haddress)
  · intro h address haddress
    rcases List.mem_append.mp haddress with hold | hnew
    · exact h address hold
    · exact ⟨r, (List.mem_singleton.mp hnew).symm⟩

theorem pieces_ne_nil (s : List Char) : pieces s ≠ [] := by
  cases s with
  | nil => simp [pieces]
  | cons c rest =>
    rw [pieces]
    split
    · simp
    · split <;> simp

theorem pieces_append (s t : List Char) : pieces (s ++ ',' :: t) = pieces s ++ pieces t := by
  induction s with
  | nil => simp [pieces]
  | cons c s ih =>
    rw [List.cons_append, pieces, pieces, ih]
    split
    · rw [List.cons_append]
    · -- The first piece of the longer text is the first one of the shorter text
      rcases hpieces : pieces s with _ | ⟨piece, others⟩
      · exact absurd hpieces (pieces_ne_nil s)
      · simp

theorem pieces_of_whole {s : List Char} (hcomma : ',' ∉ s) (hblank : ' ' ∉ s) :
    pieces s = [s] := by
  induction s with
  | nil => rfl
  | cons c s ih =>
    rw [List.mem_cons, not_or] at hcomma hblank
    have hc : ¬(c = ',' ∨ c = ' ') := by
      rintro (hc | hc)
      · exact hcomma.1 hc.symm
      · exact hblank.1 hc.symm
    rw [pieces, if_neg hc, ih hcomma.2 hblank.2]

theorem noBlank_of_isAddress {s : List Char} (h : isAddress s = true) : ' ' ∉ s := by
  rw [isAddress] at h
  split at h
  · cases h
  · simp only [Bool.and_eq_true, Bool.not_eq_true', List.contains_eq_mem, decide_eq_false_iff_not]
      at h
    exact h.1.1.1.1.2

theorem Recipient.addresses_address (r : Recipient) : addresses r.address = [r.address] := by
  have hpieces : pieces r.address.toList = [r.address.toList] :=
    pieces_of_whole r.noComma (noBlank_of_isAddress r.wellFormed)
  have haddress : isAddress r.address.toList = true := r.wellFormed
  simp [addresses, hpieces, haddress]

/-- An address put behind a comma and a blank is read after those of the list before it. -/
theorem addresses_append (list : String) (r : Recipient) :
    addresses (list ++ ", " ++ r.address) = addresses list ++ [r.address] := by
  have htext : (list ++ ", " ++ r.address).toList
      = list.toList ++ ',' :: ([] ++ ' ' :: r.address.toList) := by
    simp
  have hblank : pieces (' ' :: r.address.toList) = [] :: pieces r.address.toList := by
    simp [pieces]
  rw [addresses, htext, pieces_append, List.nil_append, hblank, ← r.addresses_address]
  -- The empty piece between the comma and the blank is no address
  simp [addresses, isAddress]

theorem intercalate_concat {list : List String} (h : list ≠ []) (last : String) :
    ", ".intercalate (list ++ [last]) = ", ".intercalate list ++ ", " ++ last := by
  rw [String.intercalate_append_of_ne_nil h (by simp), String.intercalate_singleton]

/-- A list of recipients, written out between commas, is read as the recipients it was made of. -/
theorem addresses_intercalate {list : List String} (h : AreRecipients list) :
    addresses (", ".intercalate list) = list := by
  induction list using List.reverseRecOn with
  | nil => simp [addresses, pieces, isAddress]
  | append_singleton list last ih =>
    obtain ⟨r, rfl⟩ := h last (by simp)
    rcases eq_or_ne list [] with rfl | hlist
    · simp [r.addresses_address]
    · have hread := ih (areRecipients_concat.mp h)
      rw [intercalate_concat hlist, addresses_append, hread]

end Mail

/-! ## Section 2: Header lines of fields -/

namespace MailMessage

/-- The fields of a message that have a header line. -/
inductive Field where
  | subject
  | sender
  | «to»
  | cc
  deriving DecidableEq, Repr

/-- The name that a field has in the header. -/
def Field.name : Field → String
  | .subject => "Subject"
  | .sender => "From"
  | .to => "To"
  | .cc => "CC"

/-- The header line that gives a field a value. -/
def Field.line (f : Field) (value : String) : String :=
  f.name ++ ": " ++ value

/-- An address put at the end of the header line of a list. -/
theorem Field.line_concat (f : Field) {list : List String} (h : list ≠ []) (address : String) :
    f.line (", ".intercalate list) ++ ", " ++ address
      = f.line (", ".intercalate (list ++ [address])) := by
  simp [Field.line, Mail.intercalate_concat h, String.append_assoc]

theorem cutBytes?_append (head rest : List Char) :
    cutBytes? (String.ofList head).utf8ByteSize (head ++ rest) = some (head, rest) := by
  induction head with
  | nil => rw [String.ofList_nil, String.utf8ByteSize_empty, List.nil_append, cutBytes?]
  | cons c head ih =>
    -- A character has a positive size, so the cut does not end before it
    have hpos : 0 < c.utf8Size := c.utf8Size_pos
    have hbytes : (String.ofList (c :: head)).utf8ByteSize
        = c.utf8Size + (String.ofList head).utf8ByteSize := by
      rw [String.ofList_cons, String.utf8ByteSize_append, String.utf8ByteSize_singleton]
    obtain ⟨size, hsize⟩ := Nat.exists_eq_succ_of_ne_zero
      (Nat.ne_of_gt (Nat.add_pos_left hpos (String.ofList head).utf8ByteSize))
    have hleft : size + 1 - c.utf8Size = (String.ofList head).utf8ByteSize := by
      omega
    rw [hbytes, hsize, List.cons_append, Nat.succ_eq_add_one, cutBytes?, if_pos (by omega), hleft,
      ih]
    rfl

/-- What is left of a text that is cut within it begins as the text does. -/
theorem head?_of_cutBytes? {size : Nat} {s head tail : List Char}
    (h : cutBytes? (size + 1) s = some (head, tail)) : head.head? = s.head? := by
  cases s with
  | nil => cases h
  | cons c rest =>
    rw [cutBytes?] at h
    split at h
    · obtain ⟨⟨before, after⟩, -, hcut⟩ := Option.map_eq_some_iff.mp h
      cases hcut
      rfl
    · cases h

/-- The case of the letters of a name does not matter. -/
theorem headerValue?_congr {name other : String} (hsize : name.utf8ByteSize = other.utf8ByteSize)
    (hcase : Text.equalIgnoringAsciiCase name other = true) (line : String) :
    headerValue? name line = headerValue? other line := by
  rw [Text.equalIgnoringAsciiCase_iff] at hcase
  have hanswers (head : String) :
      Text.equalIgnoringAsciiCase head name = Text.equalIgnoringAsciiCase head other := by
    rw [Bool.eq_iff_iff, Text.equalIgnoringAsciiCase_iff, Text.equalIgnoringAsciiCase_iff, hcase]
  simp only [headerValue?, hsize, hanswers]

theorem headerValue?_self (name value : String) :
    headerValue? name (name ++ ": " ++ value) = some value := by
  have htext : (name ++ ": " ++ value).toList = name.toList ++ ':' :: ' ' :: value.toList := by
    simp
  have hcut := cutBytes?_append name.toList (':' :: ' ' :: value.toList)
  rw [String.ofList_toList] at hcut
  rw [headerValue?, htext, hcut]
  simp [Text.equalIgnoringAsciiCase]

/-- A line answers to no name that begins with another letter. -/
theorem headerValue?_of_head_ne {name line : String} (hname : name ≠ "")
    (hhead : name.toList.head?.map Char.toLower ≠ line.toList.head?.map Char.toLower) :
    headerValue? name line = none := by
  obtain ⟨size, hsize⟩ : ∃ size, name.utf8ByteSize = size + 1 := by
    apply Nat.exists_eq_succ_of_ne_zero
    rwa [Ne, String.utf8ByteSize_eq_zero_iff]
  rw [headerValue?, hsize]
  split
  · rename_i head value hcut
    rw [if_neg]
    intro hcase
    apply hhead
    have hletters := congrArg List.head? (beq_iff_eq.mp hcase)
    rw [String.toList_ofList, List.head?_map, List.head?_map, head?_of_cutBytes? hcut] at hletters
    exact hletters.symm
  · rfl

/-- A line that answers to a name begins as the name does. -/
theorem head?_of_isSome_headerValue? {name line : String} (hname : name ≠ "")
    (h : (headerValue? name line).isSome = true) :
    name.toList.head?.map Char.toLower = line.toList.head?.map Char.toLower := by
  by_contra hhead
  rw [headerValue?_of_head_ne hname hhead] at h
  cases h

theorem Field.name_ne_empty (f : Field) : f.name ≠ "" := by
  cases f <;> decide

/-- The four names begin with different letters. -/
theorem Field.eq_of_head? {f g : Field}
    (h : g.name.toList.head?.map Char.toLower = f.name.toList.head?.map Char.toLower) : f = g := by
  revert h
  cases f <;> cases g <;> decide

/-- A line that answers to the name of a field answers to no other, whatever is put behind it. -/
theorem headerValue?_append_of_other {f g : Field} (hfg : f ≠ g) {line : String}
    (h : (headerValue? f.name line).isSome = true) (behind : String) :
    headerValue? g.name (line ++ behind) = none := by
  have hhead := head?_of_isSome_headerValue? f.name_ne_empty h
  apply headerValue?_of_head_ne g.name_ne_empty
  rw [String.toList_append]
  rcases hline : line.toList with _ | ⟨c, rest⟩
  · -- An empty line answers to nothing
    rw [hline] at hhead
    cases f <;> cases hhead
  · rw [hline] at hhead
    intro hother
    exact hfg (Field.eq_of_head? (hother.trans hhead.symm))

theorem headerValue?_of_other {f g : Field} (hfg : f ≠ g) {line : String}
    (h : (headerValue? f.name line).isSome = true) : headerValue? g.name line = none := by
  have hother := headerValue?_append_of_other hfg h ""
  rwa [String.append_empty] at hother

theorem headerValue?_line (f g : Field) (value : String) :
    headerValue? g.name (f.line value) = if f = g then some value else none := by
  have hself : headerValue? f.name (f.line value) = some value := headerValue?_self f.name value
  split
  · rename_i hfg
    exact hfg ▸ hself
  · rename_i hfg
    exact headerValue?_of_other hfg (Option.isSome_of_eq_some hself)

/-- A header line is added at the end, and the body stays. -/
theorem lines_addHeaderLine (m : MailMessage) (line : String) :
    (m.addHeaderLine line).headerLines = m.headerLines ++ [line] ∧
      (m.addHeaderLine line).bodyLines = m.bodyLines := by
  unfold addHeaderLine
  dsimp only
  split <;> exact ⟨rfl, rfl⟩

/-- Give a field the value that its header line says. -/
def fill (m : MailMessage) (value : String) : Field → MailMessage
  | .subject => { m with subject := some value }
  | .sender => { m with sender := some value }
  | .to => { m with «to» := m.to ++ Mail.addresses value }
  | .cc => { m with cc := m.cc ++ Mail.addresses value }

/-- The names are looked for in small letters, which makes no difference. -/
theorem addHeaderLine_eq (m : MailMessage) (line : String) :
    m.addHeaderLine line =
      let added := { m with headerLines := m.headerLines ++ [line] }
      match headerValue? Field.subject.name line, headerValue? Field.sender.name line,
        headerValue? Field.to.name line, headerValue? Field.cc.name line with
      | some value, _, _, _ => added.fill value .subject
      | none, some value, _, _ => added.fill value .sender
      | none, none, some value, _ => added.fill value .to
      | none, none, none, some value => added.fill value .cc
      | none, none, none, none => added := by
  have hsubject : headerValue? "subject" line = headerValue? Field.subject.name line :=
    headerValue?_congr (by decide) (by decide) line
  have hsender : headerValue? "from" line = headerValue? Field.sender.name line :=
    headerValue?_congr (by decide) (by decide) line
  have hto : headerValue? "to" line = headerValue? Field.to.name line :=
    headerValue?_congr (by decide) (by decide) line
  have hcc : headerValue? "cc" line = headerValue? Field.cc.name line :=
    headerValue?_congr (by decide) (by decide) line
  rw [addHeaderLine, hsubject, hsender, hto, hcc]
  rfl

/-- A header line of a field fills it. -/
theorem addHeaderLine_of_header (m : MailMessage) {f : Field} {line value : String}
    (h : headerValue? f.name line = some value) :
    m.addHeaderLine line = { m with headerLines := m.headerLines ++ [line] }.fill value f := by
  have hothers (g : Field) (hfg : f ≠ g) : headerValue? g.name line = none :=
    headerValue?_of_other hfg (Option.isSome_of_eq_some h)
  rw [addHeaderLine_eq]
  cases f with
  | subject => rw [h]
  | sender => rw [hothers .subject (by decide), h]
  | «to» => rw [hothers .subject (by decide), hothers .sender (by decide), h]
  | cc =>
    rw [hothers .subject (by decide), hothers .sender (by decide), hothers .to (by decide), h]

/-- A header line that is of no field is just added. -/
theorem addHeaderLine_of_no_header (m : MailMessage) {line : String}
    (h : ∀ f : Field, headerValue? f.name line = none) :
    m.addHeaderLine line = { m with headerLines := m.headerLines ++ [line] } := by
  rw [addHeaderLine_eq, h .subject, h .sender, h .to, h .cc]

/-! ## Section 3: Fields written out -/

/-- What the header line of a field says. -/
def written (m : MailMessage) : Field → String
  | .subject => m.subject.getD ""
  | .sender => m.sender.getD ""
  | .to => ", ".intercalate m.to
  | .cc => ", ".intercalate m.cc

/-- The field has a value. -/
def IsSet (m : MailMessage) : Field → Prop
  | .subject => m.subject.isSome
  | .sender => m.sender.isSome
  | .to => m.to ≠ []
  | .cc => m.cc ≠ []

/-- Header lines of fields in an order. -/
def linesOf (said : Field → String) (order : List Field) : List String :=
  order.map fun f => f.line (said f)

/-- A field that is set for the first time comes last. -/
def place (f : Field) (order : List Field) : List Field :=
  if f ∈ order then order else order ++ [f]

theorem mem_place {f g : Field} {order : List Field} : g ∈ place f order ↔ g = f ∨ g ∈ order := by
  rw [place]
  split
  · rename_i hf
    exact ⟨.inr, fun h => h.elim (fun hg => hg ▸ hf) id⟩
  · simp [or_comm]

theorem nodup_place {f : Field} {order : List Field} (h : order.Nodup) : (place f order).Nodup := by
  rw [place]
  split
  · exact h
  · rename_i hf
    rw [← List.concat_eq_append]
    exact h.concat hf

theorem linesOf_congr {said said' : Field → String} {order : List Field}
    (h : ∀ f ∈ order, said' f = said f) : linesOf said' order = linesOf said order :=
  List.map_congr_left fun f hf => congrArg f.line (h f hf)

/-- Updating the header line of a field changes that line, or adds it at the end. -/
theorem updateHeader_linesOf {f : Field} {said said' : Field → String} {order : List Field}
    {change : String → String} {absent : String} (hnodup : order.Nodup)
    (hothers : ∀ g, g ≠ f → said' g = said g)
    (hchange : f ∈ order → change (f.line (said f)) = f.line (said' f))
    (habsent : f ∉ order → absent = f.line (said' f)) :
    updateHeader f.name change absent (linesOf said order) = linesOf said' (place f order) := by
  induction order with
  | nil =>
    rw [habsent List.not_mem_nil]
    rfl
  | cons g order ih =>
    rw [List.nodup_cons] at hnodup
    rcases eq_or_ne g f with rfl | hg
    · -- No later field is this one, so the lines after it stay as they were
      have hrest : linesOf said' order = linesOf said order :=
        linesOf_congr fun f hf => hothers f fun hfg => hnodup.1 (hfg ▸ hf)
      have hmem : g ∈ g :: order := List.mem_cons_self
      have hanswers : (headerValue? g.name (g.line (said g))).isSome = true := by
        simp [headerValue?_line]
      rw [place, if_pos hmem, linesOf, List.map_cons, updateHeader, if_pos hanswers, hchange hmem]
      exact congrArg (_ :: ·) hrest.symm
    · have hsilent : ¬(headerValue? f.name (g.line (said g))).isSome = true := by
        simp [headerValue?_line, hg]
      have hmem : f ∈ g :: order ↔ f ∈ order := by
        simp [hg.symm]
      rw [hmem] at hchange habsent
      have hplace : place f (g :: order) = g :: place f order := by
        simp only [place, hmem]
        split <;> rfl
      rw [hplace, linesOf, List.map_cons, updateHeader, if_neg hsilent, ← hothers g hg]
      exact congrArg (_ :: ·) (ih hnodup.2 hchange habsent)

/-- The header lines are the fields that are set, written out in an order. -/
structure WritesFields (m : MailMessage) (order : List Field) : Prop where
  nodup : order.Nodup
  mem_iff (f : Field) : f ∈ order ↔ m.IsSet f
  lines : m.headerLines = linesOf m.written order
  toRecipients : Mail.AreRecipients m.to
  ccRecipients : Mail.AreRecipients m.cc

theorem writesFields_empty : ({} : MailMessage).WritesFields [] where
  nodup := .nil
  mem_iff f := by cases f <;> simp [IsSet]
  lines := rfl
  toRecipients := Mail.areRecipients_nil
  ccRecipients := Mail.areRecipients_nil

/-- A step that gives one field a new value and updates its header line keeps the header lines the
fields written out. -/
theorem WritesFields.update {m after : MailMessage} {order : List Field}
    (h : m.WritesFields order) (f : Field) {change : String → String} {absent : String}
    (hlines : after.headerLines = updateHeader f.name change absent m.headerLines)
    (hothers : ∀ g, g ≠ f → after.written g = m.written g ∧ (after.IsSet g ↔ m.IsSet g))
    (hset : after.IsSet f)
    (hchange : m.IsSet f → change (f.line (m.written f)) = f.line (after.written f))
    (habsent : ¬m.IsSet f → absent = f.line (after.written f))
    (hto : Mail.AreRecipients after.to) (hcc : Mail.AreRecipients after.cc) :
    after.WritesFields (place f order) where
  nodup := nodup_place h.nodup
  mem_iff g := by
    rw [mem_place, h.mem_iff]
    rcases eq_or_ne g f with rfl | hg
    · simp [hset]
    · simp [hg, (hothers g hg).2]
  lines := by
    rw [hlines, h.lines]
    apply updateHeader_linesOf h.nodup (fun g hg => (hothers g hg).1)
    · rwa [h.mem_iff]
    · rwa [h.mem_iff]
  toRecipients := hto
  ccRecipients := hcc

/-! ## Section 4: Composing -/

/-- A step of composing a message. -/
inductive Edit where
  | setSubject (subject : String)
  | setSender (sender : String)
  | addToRecipient (recipient : Mail.Recipient)
  | addCcRecipient (recipient : Mail.Recipient)
  | addBodyLine (line : String)

def edit (m : MailMessage) : Edit → MailMessage
  | .setSubject subject => m.setSubject subject
  | .setSender sender => m.setSender sender
  | .addToRecipient recipient => m.addToRecipient recipient.address
  | .addCcRecipient recipient => m.addCcRecipient recipient.address
  | .addBodyLine line => m.addBodyLine line

/-- A new message after some edits. -/
def compose (edits : List Edit) : MailMessage :=
  edits.foldl edit {}

/-- A field that is set anew has its line written anew. -/
theorem headerLines_replaceHeader (m : MailMessage) (f : Field) (value : String) :
    (m.replaceHeader f.name value).headerLines
      = updateHeader f.name (fun _ => f.line value) (f.line value) m.headerLines :=
  rfl

/-- A list that gets another address has it at the end of its line. -/
theorem headerLines_appendToHeader (m : MailMessage) (f : Field) (address : String) :
    (m.appendToHeader f.name address).headerLines
      = updateHeader f.name (· ++ ", " ++ address) (f.line address) m.headerLines :=
  rfl

theorem WritesFields.edit {m : MailMessage} {order : List Field} (h : m.WritesFields order)
    (e : Edit) : ∃ order, (m.edit e).WritesFields order := by
  cases e with
  | setSubject subject =>
    refine ⟨_, h.update .subject (headerLines_replaceHeader _ .subject subject) ?_ rfl
      (fun _ => rfl) (fun _ => rfl) h.toRecipients h.ccRecipients⟩
    intro g hg
    cases g <;> first | exact absurd rfl hg | exact ⟨rfl, Iff.rfl⟩
  | setSender sender =>
    refine ⟨_, h.update .sender (headerLines_replaceHeader _ .sender sender) ?_ rfl
      (fun _ => rfl) (fun _ => rfl) h.toRecipients h.ccRecipients⟩
    intro g hg
    cases g <;> first | exact absurd rfl hg | exact ⟨rfl, Iff.rfl⟩
  | addToRecipient recipient =>
    refine ⟨_, h.update .to (headerLines_appendToHeader _ .to recipient.address) ?_
      (List.concat_ne_nil _ _) ?_ ?_ (Mail.areRecipients_concat.mpr h.toRecipients)
      h.ccRecipients⟩
    · intro g hg
      cases g <;> first | exact absurd rfl hg | exact ⟨rfl, Iff.rfl⟩
    · intro hset
      exact Field.to.line_concat hset recipient.address
    · intro hset
      have hnone : m.to = [] := not_not.mp hset
      simp [written, MailMessage.edit, addToRecipient, appendToHeader, hnone]
  | addCcRecipient recipient =>
    refine ⟨_, h.update .cc (headerLines_appendToHeader _ .cc recipient.address) ?_
      (List.concat_ne_nil _ _) ?_ ?_ h.toRecipients
      (Mail.areRecipients_concat.mpr h.ccRecipients)⟩
    · intro g hg
      cases g <;> first | exact absurd rfl hg | exact ⟨rfl, Iff.rfl⟩
    · intro hset
      exact Field.cc.line_concat hset recipient.address
    · intro hset
      have hnone : m.cc = [] := not_not.mp hset
      simp [written, MailMessage.edit, addCcRecipient, appendToHeader, hnone]
  | addBodyLine line =>
    exact ⟨order, h.nodup, h.mem_iff, h.lines, h.toRecipients, h.ccRecipients⟩

theorem exists_writesFields_compose (edits : List Edit) :
    ∃ order, (compose edits).WritesFields order := by
  induction edits using List.reverseRecOn with
  | nil => exact ⟨[], writesFields_empty⟩
  | append_singleton edits e ih =>
    obtain ⟨order, h⟩ := ih
    rw [compose, List.foldl_append]
    exact h.edit e

/-! ## Section 5: Reading back -/

/-- A new message with these header lines added one after the other. -/
def read (lines : List String) : MailMessage :=
  lines.foldl addHeaderLine {}

/-- What reading the header lines of distinct fields does: each field named by a line gets what the
line says, and the others stay. -/
theorem foldl_addHeaderLine_linesOf {order : List Field} (said : Field → String)
    (hnodup : order.Nodup) (m : MailMessage) :
    (linesOf said order).foldl addHeaderLine m =
      { headerLines := m.headerLines ++ linesOf said order
        bodyLines := m.bodyLines
        «to» := m.to ++ if Field.to ∈ order then Mail.addresses (said .to) else []
        cc := m.cc ++ if Field.cc ∈ order then Mail.addresses (said .cc) else []
        sender := if Field.sender ∈ order then some (said .sender) else m.sender
        subject := if Field.subject ∈ order then some (said .subject) else m.subject } := by
  induction order generalizing m with
  | nil => simp [linesOf]
  | cons f order ih =>
    obtain ⟨hf, hnodup⟩ := List.nodup_cons.mp hnodup
    have hlines : linesOf said (f :: order) = f.line (said f) :: linesOf said order := rfl
    have hline : headerValue? f.name (f.line (said f)) = some (said f) :=
      headerValue?_self f.name (said f)
    rw [hlines, List.foldl_cons, addHeaderLine_of_header m hline, ih hnodup]
    -- No later line names the field of the first one
    cases f <;> simp [fill, hf]

/-- A text that is read where there is one. -/
theorem ite_some_getD {isRead : Prop} [Decidable isRead] {value : Option String}
    (h : isRead ↔ value.isSome) : (if isRead then some (value.getD "") else none) = value := by
  cases value with
  | none => simp [h]
  | some text => simp [h]

/-- A list that is read where it is not empty. -/
theorem ite_addresses_intercalate {isRead : Prop} [Decidable isRead] {list : List String}
    (h : isRead ↔ list ≠ []) (hlist : Mail.AreRecipients list) :
    (if isRead then Mail.addresses (", ".intercalate list) else []) = list := by
  split
  · exact Mail.addresses_intercalate hlist
  · rename_i hunread
    exact (not_not.mp (h.not.mp hunread)).symm

/-- Fields written out are read back. -/
theorem WritesFields.read_headerLines {m : MailMessage} {order : List Field}
    (h : m.WritesFields order) : read m.headerLines = { m with bodyLines := [] } := by
  have hto := ite_addresses_intercalate (h.mem_iff .to) h.toRecipients
  have hcc := ite_addresses_intercalate (h.mem_iff .cc) h.ccRecipients
  have hsender := ite_some_getD (h.mem_iff .sender)
  have hsubject := ite_some_getD (h.mem_iff .subject)
  rw [read, h.lines, foldl_addHeaderLine_linesOf m.written h.nodup, ← h.lines]
  simp only [written, List.nil_append, hto, hcc, hsender, hsubject]

/-- Composed mail survives reading: whatever edits made a message, its header lines, added in order
to a new message, give the same header with the same subject, sender and recipients. -/
theorem read_headerLines_compose (edits : List Edit) :
    read (compose edits).headerLines = { compose edits with bodyLines := [] } := by
  obtain ⟨order, h⟩ := exists_writesFields_compose edits
  exact h.read_headerLines

-- A setter that is used again writes its line anew, where it stood
example :
    (compose [.setSubject "a", .addToRecipient ⟨"b@c.d", by decide, by decide⟩, .setSubject "To: e",
      .addToRecipient ⟨"f@g.h", by decide, by decide⟩]).headerLines
      = ["Subject: To: e", "To: b@c.d, f@g.h"] := by
  decide

end MailMessage

end JobScript
