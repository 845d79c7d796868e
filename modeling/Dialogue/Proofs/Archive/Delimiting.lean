import Dialogue.Archive.Bytes
import Mathlib.Algebra.Group.Nat.Defs
import Mathlib.Data.List.Basic

/-!
# Archives read from bytes

The bytes of an archive tell themselves where they end. With whatever comes behind them they are read
as the archive, and no more of them is read; and where some of them are missing, nothing is read.
`Delimits` says this of any part of an archive. It goes from two readers to the one that runs them in
turn, so that each part needs only the argument of its own form.
-/

namespace Dialogue.Archive

variable {α β : Type} {read : Reader α} {next : α → Reader β} {bytes bytes' : Bytes} {x : α} {y : β}

/-! ### Readers in turn -/

/-- Reads with one reader, and then with another that hangs on what was read. -/
def Reader.andThen (read : Reader α) (next : α → Reader β) : Reader β := fun bytes =>
  (read bytes).bind fun r => next r.1 r.2

/-- Reads no byte. -/
def Reader.give (x : Option α) : Reader α := fun bytes => x.map (·, bytes)

/-- A reader takes exactly these bytes for a value, and no fewer of them for anything. -/
structure Delimits (read : Reader α) (bytes : Bytes) (x : α) : Prop where
  reads : ∀ rest, read (bytes ++ rest) = some (x, rest)
  starves : ∀ part missing, part ++ missing = bytes → missing ≠ [] → read part = none

lemma delimits_give (x : α) : Delimits (.give (some x)) [] x where
  reads _ := rfl
  starves _ _ h hmissing := absurd (List.append_eq_nil_iff.mp h).2 hmissing

/-- Of the bytes for two readers, those for the first are cut short, or those for the second. -/
lemma Delimits.andThen (h : Delimits read bytes x) (hnext : Delimits (next x) bytes' y) :
    Delimits (read.andThen next) (bytes ++ bytes') y := by
  constructor
  · intro rest
    simp only [Reader.andThen, List.append_assoc, h.reads, Option.bind_some, hnext.reads]
  · intro part missing heq hmissing
    have hsecond : ∀ part', part' ++ missing = bytes' →
        read.andThen next (bytes ++ part') = none := by
      intro part' heq'
      simp only [Reader.andThen, h.reads, Option.bind_some]
      exact hnext.starves part' missing heq' hmissing
    rcases List.append_eq_append_iff.mp heq with ⟨gap, hbytes, hgap⟩ | ⟨part', hpart, hbytes'⟩
    · cases gap with
      | nil =>
        rw [List.append_nil] at hbytes
        rw [← hbytes, ← List.append_nil bytes]
        exact hsecond [] hgap
      | cons b gap =>
        simp only [Reader.andThen, h.starves part _ hbytes.symm (List.cons_ne_nil b gap),
          Option.bind_none]
    · rw [hpart]
      exact hsecond part' hbytes'.symm

/-- What is made of a value takes no bytes of its own. -/
lemma Delimits.map (h : Delimits read bytes x) {f : α → Option β} (hf : f x = some y) :
    Delimits (read.andThen fun x => .give (f x)) bytes y := by
  have hgive : Delimits (.give (f x)) [] y := by
    rw [hf]
    exact delimits_give y
  rw [← List.append_nil bytes]
  exact h.andThen hgive

/-- A byte in front tells how to go on. -/
lemma Delimits.tagged {reader : Reader α} {tag : UInt8} (h : Delimits read bytes x)
    (hnil : reader [] = none) (htag : ∀ rest, reader (tag :: rest) = read rest) :
    Delimits reader (tag :: bytes) x := by
  constructor
  · intro rest
    rw [List.cons_append, htag, h.reads]
  · intro part missing heq hmissing
    cases part with
    | nil => exact hnil
    | cons b part =>
      obtain ⟨rfl, hrest⟩ := List.cons.inj heq
      rw [htag]
      exact h.starves part missing hrest hmissing

/-! ### Numbers -/

lemma length_littleEndian (count n : Nat) : (littleEndian count n).length = count := by
  induction count generalizing n with
  | zero => rfl
  | succ count ih => rw [littleEndian, List.length_cons, ih]

lemma ofLittleEndian_littleEndian {count n : Nat} (h : n < 256 ^ count) :
    ofLittleEndian (littleEndian count n) = n := by
  induction count generalizing n with
  | zero =>
    rw [Nat.pow_zero, Nat.lt_one_iff] at h
    rw [h]
    rfl
  | succ count ih =>
    have hquot : n / 256 < 256 ^ count := Nat.div_lt_of_lt_mul (by rwa [Nat.pow_succ'] at h)
    rw [littleEndian, ofLittleEndian, ih hquot, UInt8.toNat_ofNat']
    exact Nat.mod_add_div n 256

lemma delimits_take {count : Nat} (h : bytes.length = count) :
    Delimits (take? count) bytes bytes := by
  constructor
  · intro rest
    simp only [take?, List.take_left' h, List.drop_left' h, h, if_true]
  · intro part missing heq hmissing
    have hshort : part.length < count := by
      rw [← h, ← heq, List.length_append]
      exact Nat.lt_add_of_pos_right (List.length_pos_iff.mpr hmissing)
    have hne : (part.take count).length ≠ count := by
      rw [List.length_take]
      omega
    simp only [take?, if_neg hne]

lemma fixed?_eq (count : Nat) :
    fixed? count = (take? count).andThen fun part => .give (some (ofLittleEndian part)) := rfl

lemma delimits_fixed {count n : Nat} (h : n < 256 ^ count) :
    Delimits (fixed? count) (littleEndian count n) n := by
  rw [fixed?_eq]
  exact (delimits_take (length_littleEndian count n)).map (by rw [ofLittleEndian_littleEndian h])

/-- Numbers are told apart by their first byte: itself, or the width of what follows. -/
lemma delimits_number {long : Bool} {n : Nat} (h : n < if long then 2 ^ 64 else 2 ^ 32) :
    Delimits (number? long) (putNumber n) n := by
  simp only [putNumber]
  split
  · next hsmall =>
    refine (delimits_give n).tagged rfl fun rest => ?_
    have htoNat : (UInt8.ofNat n).toNat = n := by
      rw [UInt8.toNat_ofNat']
      omega
    have hlt : UInt8.ofNat n < 0xfb := by
      rw [UInt8.lt_iff_toNat_lt, htoNat]
      exact hsmall
    simp only [number?, if_pos hlt, htoNat]
    rfl
  · split
    · next hwidth => exact (delimits_fixed hwidth).tagged rfl fun rest => rfl
    · split
      · next hwidth => exact (delimits_fixed hwidth).tagged rfl fun rest => rfl
      · next hwide =>
        cases long with
        | false => exact absurd h hwide
        | true => exact (delimits_fixed h).tagged rfl fun rest => rfl

/-! ### Texts, options and lists -/

lemma fromUTF8?_toUTF8 (s : String) : String.fromUTF8? ⟨s.toUTF8.data.toList.toArray⟩ = some s := by
  simp only [Array.toArray_toList]
  exact dif_pos s.isValidUTF8

lemma text?_eq :
    text? = (number? true).andThen fun count =>
      (take? count).andThen fun part => .give (String.fromUTF8? ⟨part.toArray⟩) := by
  funext bytes
  simp only [text?, Reader.andThen, Reader.give, Option.map_eq_bind]
  rfl

lemma delimits_text {s : String} (h : s.utf8ByteSize < 2 ^ 64) : Delimits text? (putText s) s := by
  rw [text?_eq]
  exact (delimits_number h).andThen
    ((delimits_take (Array.length_toList)).map (fromUTF8?_toUTF8 s))

/-- A text or nothing. -/
lemma delimits_option {s : Option String} (h : ∀ t, s = some t → t.utf8ByteSize < 2 ^ 64) :
    Delimits option? (putOption s) s := by
  cases s with
  | none => exact (delimits_give none).tagged rfl fun rest => rfl
  | some s =>
    have htext : Delimits (text?.andThen fun t => .give (some (some t))) (putText s) (some s) :=
      (delimits_text (h s rfl)).map rfl
    refine htext.tagged rfl fun rest => ?_
    simp only [option?, Reader.andThen, Reader.give]
    cases text? rest <;> rfl

lemma items?_succ (read : Reader α) (items : List α) (count : Nat) :
    items? read items (count + 1) =
      read.andThen fun x => items? read (x :: items) count := by
  funext bytes
  simp only [items?, Reader.andThen]
  cases read bytes <;> rfl

/-- The items that are read come behind those read before. -/
lemma delimits_items {put : α → Bytes} {items : List α} (earlier : List α)
    (h : ∀ x ∈ items, Delimits read (put x) x) :
    Delimits (items? read earlier items.length) (items.flatMap put) (earlier.reverse ++ items) := by
  induction items generalizing earlier with
  | nil =>
    rw [List.append_nil]
    exact delimits_give earlier.reverse
  | cons x items ih =>
    have hrest := ih (x :: earlier) fun y hy => h y (List.mem_cons_of_mem x hy)
    rw [List.reverse_cons, List.append_assoc] at hrest
    rw [List.length_cons, items?_succ, List.flatMap_cons]
    exact (h x List.mem_cons_self).andThen hrest

lemma list?_eq (read : Reader α) :
    list? read = (number? true).andThen fun count => items? read [] count := rfl

lemma delimits_list {put : α → Bytes} {items : List α} (hlength : items.length < 2 ^ 64)
    (h : ∀ x ∈ items, Delimits read (put x) x) : Delimits (list? read) (putList put items) items := by
  rw [list?_eq]
  exact (delimits_number hlength).andThen (delimits_items [] h)

/-! ### Parts of an archive -/

lemma choice?_eq (all : List α) :
    choice? all = (number? false).andThen fun i => .give all[i]? := by
  funext bytes
  simp only [choice?, Reader.andThen, Reader.give, Option.map_eq_bind]
  rfl

/-- One of a list of values is read back by its place. -/
lemma delimits_choice [DecidableEq α] {all : List α} (hlength : all.length < 2 ^ 32) (h : x ∈ all) :
    Delimits (choice? all) (putChoice all x) x := by
  have hplace : all.idxOf x < 2 ^ 32 := Nat.lt_trans (List.idxOf_lt_length_of_mem h) hlength
  rw [choice?_eq]
  exact (delimits_number hplace).map (List.getElem?_idxOf h)

lemma delimits_speaker (speaker : Speaker) :
    Delimits (choice? Speaker.all) (putChoice Speaker.all speaker) speaker :=
  delimits_choice (by decide) (by cases speaker <;> decide)

lemma delimits_status (status : Status) :
    Delimits (choice? Status.all) (putChoice Status.all status) status :=
  delimits_choice (by decide) (by cases status <;> decide)

lemma binding?_eq :
    binding? = text?.andThen fun name => text?.andThen fun value => .give (some (name, value)) := rfl

lemma delimits_binding {v : String × String} (hname : v.1.utf8ByteSize < 2 ^ 64)
    (hvalue : v.2.utf8ByteSize < 2 ^ 64) : Delimits binding? (putBinding v) v := by
  rw [binding?_eq]
  exact (delimits_text hname).andThen ((delimits_text hvalue).map rfl)

lemma line?_eq :
    line? = (choice? Speaker.all).andThen fun speaker =>
      text?.andThen fun text => .give (some ⟨speaker, text⟩) := rfl

lemma delimits_line {l : Line} (h : l.text.utf8ByteSize < 2 ^ 64) :
    Delimits line? (putLine l) l := by
  rw [line?_eq]
  exact (delimits_speaker l.speaker).andThen ((delimits_text h).map rfl)

/-! ### Archives -/

/-- The sizes of all texts and lists are numbers of eight bytes, as the sizes of what a memory holds
are. -/
structure Sized (a : Archive) : Prop where
  session : a.session.utf8ByteSize < 2 ^ 64
  flow : a.flow.utf8ByteSize < 2 ^ 64
  node : ∀ node, a.node = some node → node.utf8ByteSize < 2 ^ 64
  vars : a.vars.length < 2 ^ 64
  bindings : ∀ v ∈ a.vars, v.1.utf8ByteSize < 2 ^ 64 ∧ v.2.utf8ByteSize < 2 ^ 64
  transcript : a.transcript.length < 2 ^ 64
  lines : ∀ l ∈ a.transcript, l.text.utf8ByteSize < 2 ^ 64

lemma read?_eq :
    read? = text?.andThen fun session => text?.andThen fun flow => option?.andThen fun node =>
      (choice? Status.all).andThen fun status => (list? binding?).andThen fun vars =>
        (list? line?).andThen fun transcript =>
          .give (some { session, flow, node, status, vars, transcript }) := rfl

lemma delimits_toBytes {a : Archive} (h : a.Sized) : Delimits read? a.toBytes a := by
  have hvars : Delimits (list? binding?) (putList putBinding a.vars) a.vars :=
    delimits_list h.vars fun v hv => delimits_binding (h.bindings v hv).1 (h.bindings v hv).2
  have htranscript : Delimits (list? line?) (putList putLine a.transcript) a.transcript :=
    delimits_list h.transcript fun l hl => delimits_line (h.lines l hl)
  rw [read?_eq]
  simp only [toBytes, List.append_assoc]
  exact (delimits_text h.session).andThen <| (delimits_text h.flow).andThen <|
    (delimits_option h.node).andThen <| (delimits_status a.status).andThen <|
      hvars.andThen <| htranscript.map rfl

/-- The bytes of an archive are read as the archive, whatever comes behind them, and no further than
they go. Where some of them are missing at the end, reading fails. -/
theorem toBytes_selfDelimiting (a : Archive) (h : a.Sized) :
    (∀ rest, ofBytes? (a.toBytes ++ rest) = some a ∧
      read? (a.toBytes ++ rest) = some (a, rest)) ∧
    ∀ part, part <+: a.toBytes → part ≠ a.toBytes → ofBytes? part = none := by
  have hdelimits := delimits_toBytes h
  constructor
  · intro rest
    simp only [ofBytes?, hdelimits.reads, Option.map_some, and_self]
  · rintro part ⟨missing, heq⟩ hne
    have hmissing : missing ≠ [] := by
      rintro rfl
      exact hne (by rw [← heq, List.append_nil])
    simp only [ofBytes?, hdelimits.starves part missing heq hmissing, Option.map_none]

/-- The archive of a session with a variable without a value and a line that is too long for a size
of one byte. -/
def sample : Archive where
  session := "ä"
  flow := "greeting"
  node := some "bye"
  status := .ended
  vars := [("name", "Zoë"), ("note", "")]
  transcript := [⟨.user, "Zoë"⟩, ⟨.bot, String.ofList (List.replicate 251 'o')⟩]

/-- The archive is read from its bytes and one more, and not from one byte less. -/
theorem toBytes_selfDelimiting_sample :
    sample.Sized ∧ read? (sample.toBytes ++ [0xff]) = some (sample, [0xff]) ∧
      ofBytes? (sample.toBytes ++ [0xff]) = some sample ∧ ofBytes? sample.toBytes.dropLast = none := by
  have hsized : sample.Sized := {
    session := by decide
    flow := by decide
    node := by rintro _ ⟨⟩; decide
    vars := by decide
    bindings := by decide
    transcript := by decide
    lines := by decide +kernel }
  obtain ⟨hreads, hstarves⟩ := toBytes_selfDelimiting sample hsized
  refine ⟨hsized, (hreads [0xff]).2, (hreads [0xff]).1, hstarves _ (List.dropLast_prefix _) ?_⟩
  have hne : sample.toBytes ≠ [] := by decide +kernel
  intro heq
  have hlength := congrArg List.length heq
  rw [List.length_dropLast] at hlength
  have hpos := List.length_pos_iff.mpr hne
  omega

end Dialogue.Archive
