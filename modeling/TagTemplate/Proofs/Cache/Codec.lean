import Mathlib.Data.List.Nodup
import TagTemplate.Cache.Entry
import TagTemplate.Proofs.Json.RoundTrip
import TagTemplate.Proofs.Template.Folding

/-!
# Cache entries read back

What is written for an entry is read as that entry, if its numbers are within the bounds of the
format, and is unreadable otherwise. It is never read as another entry.

- `Decodes`: a document is read as one value, under a condition, and as no other;
- `fields?_record`: the fields of a record, taken by their names;
- `decodes_child` to `decodes_entry`: one lemma for each kind of document;
- `readable_entry`: the text of an entry is a document;
- `Entry.read?_write`: what the bytes written for an entry are read as;
- `Entry.read?_write_of_fits`: **an entry within the bounds is restored from its bytes**.
-/

namespace TagTemplate

/-- The position is one that the format has. -/
def Child.Fits : Child → Prop
  | .node id => id < Nat.pow 2 64
  | .text _ => True

/-- The numbers of the element are ones that the format has. -/
structure Node.Fits (n : Node) : Prop where
  children : ∀ child ∈ n.children, child.Fits
  line : n.line < Nat.pow 2 64
  parent : ∀ id ∈ n.parent, id < Nat.pow 2 64

/-- The numbers of the tree are ones that the format has. -/
structure Tree.Fits (t : Tree) : Prop where
  nodes : ∀ n ∈ t.nodes, n.Fits
  root : ∀ child ∈ t.root, child.Fits

namespace Cache

/-- The numbers of the entry are ones that the format has. -/
structure Entry.Fits (e : Entry) : Prop where
  version : e.version < Nat.pow 2 32
  tree : e.template.tree.Fits

/-- A reader finds `a` in `j` if it `fits`, and never anything else. -/
def Decodes {ι α : Type} (read : ι → Option α) (j : ι) (a : α) (fits : Prop) : Prop :=
  ∀ b, read j = some b ↔ fits ∧ b = a

namespace Decodes

variable {ι α β : Type} {read : ι → Option α} {j : ι} {a : α} {fits : Prop}

theorem of_eq (h : read j = some a) : Decodes read j a True := by
  intro b
  rw [h, Option.some.injEq, true_and, eq_comm]

end Decodes

/-! ## Values -/

theorem decodes_text (s : String) : Decodes toText? (.text s) s True := .of_eq rfl

theorem decodes_bool (b : Bool) : Decodes toBool? (.bool b) b True := .of_eq rfl

theorem decodes_index (bound n : Nat) : Decodes (toIndex? bound) (.ofNat n) n (n < bound) := by
  intro b
  have hread : toIndex? bound (.ofNat n) = if n < bound then some n else none := by
    simp [toIndex?, Json.ofNat, Numeral.toIndex?, Numeral.isInteger, Numeral.ofNat,
      Number.digitsValue_digits]
  rw [hread]
  split
  · rename_i hlt
    simp [hlt, eq_comm]
  · rename_i hlt
    simp [hlt]

theorem decodes_size (n : Nat) : Decodes toSize? (.ofNat n) n (n < Nat.pow 2 64) :=
  decodes_index _ n

theorem decodes_directive (d : Directive) : Decodes toDirective? (.text d.name) d True :=
  .of_eq (Directive.ofName?_name d)

section Containers

variable {α : Type} {read : Json → Option α} {write : α → Json} {fits : α → Prop}

theorem decodes_optional {o : Option α}
    (h : ∀ a ∈ o, Decodes read (write a) a (fits a) ∧ write a ≠ .null) :
    Decodes (toOptional? read) (some (.optional write o)) o (∀ a ∈ o, fits a) := by
  intro b
  cases o with
  | none => simp [Json.optional, toOptional?, eq_comm]
  | some a =>
    obtain ⟨ha, hnull⟩ := h a rfl
    -- nothing is written as null, so something must never be
    have hread : toOptional? read (some (.optional write (some a))) =
        (read (write a)).map some := by
      show toOptional? read (some (write a)) = _
      rw [toOptional?]
      exact hnull
    rw [hread, Option.map_eq_some_iff]
    constructor
    · rintro ⟨a', ha', rfl⟩
      obtain ⟨hfits, rfl⟩ := (ha a').1 ha'
      exact ⟨fun _ heq => Option.some.inj heq ▸ hfits, rfl⟩
    · rintro ⟨hfits, rfl⟩
      exact ⟨a, (ha a).2 ⟨hfits a rfl, rfl⟩, rfl⟩

theorem decodes_list {xs : List α} (h : ∀ x ∈ xs, Decodes read (write x) x (fits x)) :
    Decodes (toList? read) (.array (xs.map write)) xs (∀ x ∈ xs, fits x) := by
  show ∀ b, (xs.map write).mapM read = some b ↔ _
  induction xs with
  | nil => simp [eq_comm]
  | cons x xs ih =>
    intro b
    have hx := h x List.mem_cons_self
    have hxs := ih fun y hy => h y (List.mem_cons_of_mem x hy)
    simp only [List.map_cons, List.mapM_cons, Option.bind_eq_bind, Option.bind_eq_some_iff,
      Option.pure_def, Option.some.injEq, List.forall_mem_cons]
    constructor
    · rintro ⟨y, hy, ys, hys, rfl⟩
      obtain ⟨hfit, rfl⟩ := (hx y).1 hy
      obtain ⟨hfits, rfl⟩ := (hxs ys).1 hys
      exact ⟨⟨hfit, hfits⟩, rfl⟩
    · rintro ⟨⟨hfit, hfits⟩, rfl⟩
      exact ⟨x, (hx x).2 ⟨hfit, rfl⟩, xs, (hxs xs).2 ⟨hfits, rfl⟩, rfl⟩

end Containers

theorem mapM_toText (es : List (String × String)) :
    ((es.map fun (name, value) => (name, Json.text value)).map
      fun (name, value) => (some name, value)).mapM
        (fun (member : Option String × Json) =>
          member.1.bind fun name => (toText? member.2).map fun value => (name, value)) =
    some es := by
  induction es with
  | nil => rfl
  | cons e es ih =>
    rw [List.map_cons, List.map_cons, List.mapM_cons, ih]
    rfl

theorem decodes_map {m : OrderedMap String} (h : m.Distinct) :
    Decodes toMap? (.record (m.entries.map fun (name, value) => (name, .text value))) m True := by
  refine .of_eq ?_
  rw [Json.record, toMap?, mapM_toText, Option.map_some,
    OrderedMap.ofList_of_nodup h]

/-! ## Records -/

theorem lookup_some (members : List (String × Json)) (name : String) :
    (members.map fun (name, value) => (some name, value)).lookup (some name) =
      members.lookup name := by
  induction members with
  | nil => rfl
  | cons m members ih =>
    obtain ⟨first, value⟩ := m
    by_cases hname : name = first
    · subst hname
      simp
    · have hb : (name == first) = false := by simpa using hname
      simp [List.lookup_cons, hb, ih]

/-- The fields of a record are found by their names. -/
theorem fields?_record {members : List (String × Json)} {names : List String}
    (h : members.map Prod.fst = names) (hnodup : names.Nodup) :
    fields? names (.record members) = some (members.map fun m => some m.2) := by
  subst h
  have hnames : (members.map fun (name, value) => (some name, value)).map Prod.fst =
      (members.map Prod.fst).map some := by
    simp
  -- a field that is given twice would be refused
  have hcount : ∀ name ∈ members.map Prod.fst,
      ((members.map Prod.fst).map some).count (some name) ≤ 1 := fun name _ =>
    List.nodup_iff_count_le_one.1 (hnodup.map fun _ _ => Option.some.inj) (some name)
  rw [Json.record, fields?]
  simp only [hnames]
  rw [if_pos]
  · refine congrArg some ?_
    rw [List.map_map]
    refine List.map_congr_left fun m hm => ?_
    show List.lookup (some m.1) _ = _
    rw [lookup_some, OrderedMap.lookup_of_mem hnodup hm]
  · refine ⟨?_, ?_⟩
    · simp
    · simpa using hcount

theorem decodes_child (c : Child) : Decodes toChild? (ofChild c) c c.Fits := by
  intro b
  cases c with
  | text content =>
    show (toText? (.text content)).map Child.text = some b ↔ _
    simp [Child.Fits, toText?, Json.text, eq_comm]
  | node id =>
    show (toSize? (.ofNat id)).map Child.node = some b ↔ _
    rw [Option.map_eq_some_iff]
    constructor
    · rintro ⟨id', hid, rfl⟩
      obtain ⟨hfits, rfl⟩ := (decodes_size id id').1 hid
      exact ⟨hfits, rfl⟩
    · rintro ⟨hfits, rfl⟩
      exact ⟨id, (decodes_size id id).2 ⟨hfits, rfl⟩, rfl⟩

theorem ofChild_ne_null (c : Child) : ofChild c ≠ .null := by
  cases c <;> exact Json.noConfusion

theorem decodes_node {n : Node} (h : n.attributes.Distinct) :
    Decodes toNode? (ofNode n) n n.Fits := by
  have hattributes := decodes_map h
  have hchildren := decodes_list fun c (_ : c ∈ n.children) => decodes_child c
  have hparent : Decodes (toOptional? toSize?) _ n.parent _ :=
    decodes_optional fun id _ => ⟨decodes_size id, fun heq => Json.noConfusion heq⟩
  have hdirective : Decodes (toOptional? toDirective?) _ n.directive _ :=
    decodes_optional fun d _ => ⟨decodes_directive d, fun heq => Json.noConfusion heq⟩
  intro b
  -- each field comes back from its own name, so that only the bounds on the numbers are left
  unfold toNode? ofNode
  rw [fields?_record (by rfl) (by decide)]
  simp only [Option.bind_eq_bind, Option.bind_some, List.map_cons, List.map_nil,
    Option.bind_eq_some_iff, decodes_text _ _, decodes_bool _ _, decodes_size _ _, hattributes _,
    hchildren _, hparent _, hdirective _, true_and, and_assoc, exists_and_left, exists_eq_left,
    implies_true, Option.some.injEq]
  constructor
  · rintro ⟨hfits, hline, hid, rfl⟩
    exact ⟨⟨hfits, hline, hid⟩, rfl⟩
  · rintro ⟨hfits, rfl⟩
    exact ⟨hfits.children, hfits.line, hfits.parent, rfl⟩

theorem decodes_tree {t : Tree} (h : t.HasDistinctAttributes) :
    Decodes toTree? (ofTree t) t t.Fits := by
  have hnodes := decodes_list fun n (hn : n ∈ t.nodes) => decodes_node (h n hn)
  have hroot : Decodes (toOptional? toChild?) _ t.root _ :=
    decodes_optional fun c _ => ⟨decodes_child c, ofChild_ne_null c⟩
  intro b
  unfold toTree? ofTree
  rw [fields?_record (by rfl) (by decide)]
  simp only [Option.bind_eq_bind, Option.bind_some, List.map_cons, List.map_nil,
    Option.bind_eq_some_iff, hnodes _, hroot _, and_assoc, exists_and_left, exists_eq_left,
    Option.some.injEq]
  constructor
  · rintro ⟨hfits, hchild, rfl⟩
    exact ⟨⟨hfits, hchild⟩, rfl⟩
  · rintro ⟨hfits, rfl⟩
    exact ⟨hfits.nodes, hfits.root, rfl⟩

theorem decodes_template {t : Template} (h : t.tree.HasDistinctAttributes) :
    Decodes toTemplate? (ofTemplate t) t t.tree.Fits := by
  have hsource : Decodes (toOptional? toText?) _ t.transSource _ :=
    decodes_optional fun s _ => ⟨decodes_text s, fun heq => Json.noConfusion heq⟩
  intro b
  unfold toTemplate? ofTemplate
  rw [fields?_record (by rfl) (by decide)]
  simp only [Option.bind_eq_bind, Option.bind_some, List.map_cons, List.map_nil,
    Option.bind_eq_some_iff, decodes_text _ _, hsource _, decodes_tree h _, true_and, and_assoc,
    exists_and_left, exists_eq_left, implies_true, Option.some.injEq]
  rw [eq_comm]

theorem decodes_entry {e : Entry} (h : e.template.tree.HasDistinctAttributes) :
    Decodes Entry.ofJson? e.toJson e e.Fits := by
  intro b
  unfold Entry.ofJson? Entry.toJson
  rw [fields?_record (by rfl) (by decide)]
  simp only [Option.bind_eq_bind, Option.bind_some, List.map_cons, List.map_nil,
    Option.bind_eq_some_iff, decodes_bool _ _, decodes_index _ _ _, decodes_template h _, true_and,
    and_assoc, exists_and_left, exists_eq_left, Option.some.injEq]
  constructor
  · rintro ⟨hversion, htree, rfl⟩
    exact ⟨⟨hversion, htree⟩, rfl⟩
  · rintro ⟨hfits, rfl⟩
    exact ⟨hfits.version, hfits.tree, rfl⟩

/-! ## Texts -/

section Readable

open Json Readable

theorem readable_child (c : Child) : Readable 1 (ofChild c) := by
  cases c with
  | node id => exact record fun m hm => List.mem_singleton.1 hm ▸ ofNat id
  | text content => exact record fun m hm => List.mem_singleton.1 hm ▸ text content

theorem readable_node (n : Node) : Readable 3 (ofNode n) := by
  have hattributes : Readable 2
      (.record (n.attributes.entries.map fun (name, value) => (name, .text value))) := by
    refine record fun m hm => ?_
    obtain ⟨⟨name, value⟩, -, rfl⟩ := List.mem_map.1 hm
    exact text value
  have hchildren : Readable 2 (.array (n.children.map ofChild)) := by
    refine array fun item hitem => ?_
    obtain ⟨c, -, rfl⟩ := List.mem_map.1 hitem
    exact readable_child c
  refine record ?_
  simp only [List.forall_mem_cons]
  exact ⟨text _, text _, hattributes, hchildren, bool _, ofNat _, optional fun id _ => ofNat id,
    text _, optional fun d _ => text d.name, fun _ hm => absurd hm List.not_mem_nil⟩

theorem readable_tree (t : Tree) : Readable 5 (ofTree t) := by
  have hnodes : Readable 4 (.array (t.nodes.map ofNode)) := by
    refine array fun item hitem => ?_
    obtain ⟨n, -, rfl⟩ := List.mem_map.1 hitem
    exact readable_node n
  refine record ?_
  simp only [List.forall_mem_cons]
  exact ⟨hnodes, optional fun c _ => (readable_child c).mono (by decide),
    fun _ hm => absurd hm List.not_mem_nil⟩

theorem readable_template (t : Template) : Readable 6 (ofTemplate t) := by
  refine record ?_
  simp only [List.forall_mem_cons]
  exact ⟨text _, text _, optional fun s _ => text s, readable_tree t.tree,
    fun _ hm => absurd hm List.not_mem_nil⟩

theorem readable_entry (e : Entry) : Readable 7 e.toJson := by
  refine record ?_
  simp only [List.forall_mem_cons]
  exact ⟨ofNat _, bool _, readable_template e.template, fun _ hm => absurd hm List.not_mem_nil⟩

/-- There is room for as many marks as arrays and objects are nested in an entry. -/
theorem depth_le_length (e : Entry) : 7 ≤ e.toJson.write.length := by
  obtain ⟨rest, hrest⟩ : ∃ rest, e.toJson.write = "\x7b\"schema".toList ++ rest := ⟨_, rfl⟩
  rw [hrest, List.length_append]
  exact Nat.le_add_right_of_le (by decide)

end Readable

/-- Bytes are a text exactly if they are the ones that the text is encoded by. -/
theorem fromUTF8?_eq_some_iff {bytes : ByteArray} {s : String} :
    String.fromUTF8? bytes = some s ↔ bytes = s.toUTF8 := by
  rw [String.toUTF8_eq_toByteArray]
  constructor
  · intro h
    unfold String.fromUTF8? at h
    split at h
    · cases h
      rfl
    · cases h
  · rintro rfl
    exact dif_pos s.isValidUTF8

/-- **What is kept for a template comes back**: the bytes written for an entry are read as that
entry, or not at all if a number in it is too large for the format. -/
theorem Entry.read?_write {e : Entry} (h : e.template.tree.HasDistinctAttributes) :
    Decodes Entry.read? e.write.toUTF8 e e.Fits := by
  have hbytes : Json.readBytes e.write.toUTF8 = some e.toJson := by
    rw [Json.readBytes, fromUTF8?_eq_some_iff.2 rfl]
    show Json.read e.toJson.compact.toList = _
    rw [Json.compact, String.toList_ofList]
    exact Json.read_of_readable (readable_entry e) (depth_le_length e)
  intro b
  rw [Entry.read?, hbytes, Option.bind_some]
  exact decodes_entry h b

/-- **An entry with numbers that the format has is restored from its bytes**, with the attributes of
every element in their order. -/
theorem Entry.read?_write_of_fits {e : Entry} (hdistinct : e.template.tree.HasDistinctAttributes)
    (hfits : e.Fits) : Entry.read? e.write.toUTF8 = some e :=
  (Entry.read?_write hdistinct e).2 ⟨hfits, rfl⟩

/-- An entry with the largest numbers, attributes out of order, and texts that must be escaped. -/
def intricateEntry : Entry where
  version := 4294967295
  folded := true
  template :=
    { sourcePath := "a\"b\\c/\u0007.xml"
      nsPrefix := "\u00fc:"
      transSource := some ""
      tree :=
        { nodes :=
            [{ tag := "\u00fc:val", nsPrefix := "\u00fc:",
               attributes := ⟨[("value", "𝄞\n\t"), ("id", "\u0000\u001f"), ("", "\\u0041")]⟩,
               children := [.node 18446744073709551615, .text "\u2028</p>\r"], selfClosing := false,
               line := 18446744073709551615, parent := some 18446744073709551615,
               precedingText := "\u0008\u000c\u007f\uffff", directive := some .val }]
          root := some (.node 18446744073709551615) } }

theorem intricateEntry_restored :
    Entry.read? intricateEntry.write.toUTF8 = some intricateEntry := by
  have hdistinct : ["value", "id", ""].Nodup := by decide
  have hnode : ∀ n ∈ intricateEntry.template.tree.nodes, n.attributes.Distinct ∧ n.Fits := by
    intro n hn
    rw [List.mem_singleton.1 hn]
    refine ⟨hdistinct, fun child hchild => ?_, by decide, by decide⟩
    rcases List.mem_cons.1 hchild with rfl | hchild
    · exact (by decide : 18446744073709551615 < Nat.pow 2 64)
    · rw [List.mem_singleton.1 hchild]
      trivial
  refine Entry.read?_write_of_fits (fun n hn => (hnode n hn).1)
    ⟨by decide, fun n hn => (hnode n hn).2, ?_⟩
  rintro child ⟨⟩
  exact (by decide : 18446744073709551615 < Nat.pow 2 64)

end Cache

end TagTemplate
