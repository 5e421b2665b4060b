import Mathlib.Logic.Relation
import TagTemplate.Proofs.Expr.Unmarked
import TagTemplate.Proofs.Render.Agreement
import TagTemplate.Proofs.Slots.Growth

/-!
# Templates whose anchors stay where they are

An anchor is text like any other once it is written, so it may be stored, copied, cut and dropped
with the text around it. In an orderly template this cannot happen: what is stored or becomes a part
of an attribute has no slot inside, and neither has the content of a slot that plugs are for.

- `Node.Orderly`, `Template.Orderly`: the elements of a template keep to this, and no text in them
  holds a mark;
- `Setup.Orderly`: neither does any text that comes from outside, and all templates that are
  included are orderly;
- `Setup.State`: what stays true of the state;
- `Setup.Writes`: a rendering that keeps the state orderly and composes its output of text and new
  slots, with one lemma for each way of putting renderings together.
-/

namespace TagTemplate

open Text Slots Slots.Content

/-! ## Templates -/

/-- The element does not write an anchor itself: it is no slot, and no elements from elsewhere are
rendered in its place. -/
structure Node.Anchorless (n : Node) : Prop where
  slot : n.directiveAttribute? "slot" = none
  call : n.directiveAttribute? "call" = none
  embed : n.directive ≠ some .embed

/-- The second element is a child of the first one. -/
def Template.HasChild (t : Template) (i j : Nat) : Prop :=
  ∃ n, t.tree.node? i = some n ∧ Child.node j ∈ n.children

/-- No anchor comes out of the element, however deep inside. -/
def Template.Plain (t : Template) (i : Nat) : Prop :=
  ∀ j, Relation.ReflTransGen t.HasChild i j → ∀ n, t.tree.node? j = some n → n.Anchorless

/-- No anchor comes out of the children. -/
def Template.PlainChildren (t : Template) (children : List Child) : Prop :=
  ∀ i, Child.node i ∈ children → t.Plain i

section Plain

variable {t : Template} {n : Node} {i : Nat}

theorem Template.plain_iff (hn : t.tree.node? i = some n) :
    t.Plain i ↔ n.Anchorless ∧ t.PlainChildren n.children := by
  constructor
  · intro h
    exact ⟨h i .refl n hn, fun j hj k hk => h k (.head ⟨n, hn, hj⟩ hk)⟩
  · rintro ⟨hself, hchildren⟩ k hk m hm
    rcases Relation.ReflTransGen.cases_head hk with rfl | ⟨j, ⟨n', hn', hj⟩, hrest⟩
    · rw [hn] at hm
      cases hm
      exact hself
    · rw [hn] at hn'
      cases hn'
      exact hchildren j hj k hrest m hm

end Plain

/-- The element turns the output of its children into a value. -/
def Node.Captures (n : Node) : Prop :=
  (n.directive = some .attr ∨ n.directive = some .mount ∨ n.directive = some .param) ∧
    n.attribute? "value" = none

/-- An element of which no anchor gets lost. The slots that plugs are for are `plugged`. -/
structure Node.Orderly (functions : Registry) (plugged : String → Prop) (t : Template) (n : Node) :
    Prop where
  tag : Text.Unmarked n.tag
  attributes : ∀ a ∈ n.attributes.entries,
    Text.Unmarked a.1 ∧ Expr.Harmless functions a.2.toList
  texts : ∀ content, Child.text content ∈ n.children → Text.Unmarked content
  precedingText : Text.Unmarked n.precedingText
  slot : ∀ name, n.directiveAttribute? "slot" = some name → name ≠ "slot"
  pluggedSlot : ∀ name, n.directiveAttribute? "slot" = some name → plugged name →
    t.PlainChildren n.children
  plug : ∀ name, n.directiveAttribute? "plug" = some name → plugged name
  captured : n.Captures → t.PlainChildren n.children

/-- A template made of orderly elements. -/
structure Template.Orderly (functions : Registry) (plugged : String → Prop) (t : Template) :
    Prop where
  nodes : ∀ n ∈ t.tree.nodes, n.Orderly functions plugged t
  root : ∀ content, t.tree.root = some (.text content) → Text.Unmarked content

/-- No name and no value of the attributes holds a mark. -/
def Frame.Unmarked (frame : Frame) : Prop :=
  ∀ e ∈ frame.entries, Text.Unmarked e.1 ∧ ∀ value ∈ e.2, Text.Unmarked value

/-! ## Setups -/

/-- What documents are rendered in: the environment, the files at the start, and the slots that
plugs are for. -/
structure Setup where
  env : Environment
  files : FileStore
  plugged : String → Prop

namespace Setup

variable (S : Setup)

/-- The files may come to this by loading templates, which may be put into the cache. -/
def Leads : FileStore → FileStore → Prop :=
  Relation.ReflTransGen fun before after =>
    ∃ file, after = (loadTemplate S.env.cache before file S.env.config.fold).2

/-- The template is orderly. -/
abbrev Admits (t : Template) : Prop := t.Orderly S.env.functions S.plugged

/-- No text from outside holds a mark, and all templates that may be included are orderly. -/
structure Orderly : Prop where
  feeds : ∀ name run, S.env.feeds.findSome? (· name) = some run → ∀ params v,
    (Value.map params).Unmarked → run params = .ok v → v.Unmarked
  translations : ∀ translate, S.env.translator = some translate → ∀ request text,
    translate request = some text → Text.Unmarked text
  templates : ∀ files, S.Leads S.files files → ∀ file loaded,
    (loadTemplate S.env.cache files file S.env.config.fold).1 = .ok loaded →
      S.Admits loaded.template
  texts : ∀ files, S.Leads S.files files → ∀ file text, files.readNamed file = .ok text →
    Text.Unmarked text

/-- No text in the state holds a mark, and all elements that may be called stand in orderly
templates. -/
structure State (s : RenderState) : Prop where
  scope : s.scope.Unmarked
  iterations : ∀ it ∈ s.iterations, it.Unmarked
  frames : ∀ frame ∈ s.frames, frame.Unmarked
  macros : ∀ e ∈ s.macros.entries, S.Admits e.2.template
  doctype : ∀ doctype ∈ s.doctype, Text.Unmarked doctype
  files : S.Leads S.files s.files

end Setup

/-! ## Renderings in orderly states -/

/-- Whatever a piece of work wrote, this could be written in its place. -/
def Slots.Content.Becomes (c d : Content) : Prop :=
  ∀ plugged s t is, Grows plugged s t c is → Grows plugged s t d is

namespace Setup

open Rendering

variable {α β γ : Type}

/-- The rendering keeps the state orderly, and what it gives is related to content that it composes
with new slots. -/
def Writes (S : Setup) (r : α → Content → Prop) (x : Rendering α) : Prop :=
  ∀ s a t, S.State s → x.outcome s = (.ok a, t) →
    S.State t ∧ ∃ c is, r a c ∧ Grows S.plugged s.slots t.slots c is

/-- The rendering keeps the state orderly and gives such a value, without any output. -/
def Gives (S : Setup) (P : α → Prop) (x : Rendering α) : Prop :=
  S.Writes (fun a c => P a ∧ c = .done) x

/-- The text is the output that the content stands for; if it is plain, it has no slots. -/
structure Output (plain : Prop) (output : String) (c : Content) : Prop where
  flatten : c.flatten = output.toList
  names : plain → c.names = []

variable {S : Setup} {r : α → Content → Prop} {q : β → Content → Prop} {P : α → Prop}
  {Q : β → Prop} {x : Rendering α} {plain : Prop}

theorem Writes.mono {q : α → Content → Prop} (h : S.Writes r x) (hq : ∀ a c, r a c → q a c) :
    S.Writes q x := by
  intro s a t hs hx
  obtain ⟨ht, c, is, hr, hgrows⟩ := h s a t hs hx
  exact ⟨ht, c, is, hq a c hr, hgrows⟩

/-- Other content in place of what was composed. -/
theorem Writes.becomes {q : α → Content → Prop} (h : S.Writes r x)
    (hq : ∀ a c, r a c → c.Clean → ∃ d, c.Becomes d ∧ q a d) : S.Writes q x := by
  intro s a t hs hx
  obtain ⟨ht, c, is, hr, hgrows⟩ := h s a t hs hx
  have hclean := (hgrows.sound c List.mem_cons_self).clean
  obtain ⟨d, hd, hqd⟩ := hq a c hr hclean
  exact ⟨ht, d, is, hqd, hd _ _ _ _ hgrows⟩

theorem becomes_text {c : Content} {chars : List Char} (h : anchorMark ∉ chars) :
    c.Becomes (.text chars .done) :=
  fun _ _ _ _ hgrows => hgrows.text h

theorem becomes_done {c : Content} : c.Becomes .done :=
  fun _ _ _ _ hgrows => hgrows.mono ⟨trivial, trivial⟩ (List.nil_sublist _)

/-- What is given may be forgotten together with the output. -/
theorem Writes.gives (h : S.Writes r x) (hP : ∀ a c, r a c → c.Clean → P a) : S.Gives P x :=
  h.becomes fun a c hr hclean => ⟨.done, becomes_done, hP a c hr hclean, rfl⟩

/-- The text of plain content holds no mark. -/
theorem Output.unmarked {output : String} {c : Content} (h : Output True output c)
    (hclean : c.Clean) : Text.Unmarked output := by
  rw [Text.Unmarked, ← h.flatten, mem_flatten_iff hclean, not_not]
  exact h.names trivial

/-- Text without marks is output. -/
theorem Gives.writes {x : Rendering String} (h : S.Gives Text.Unmarked x) :
    S.Writes (Output plain) x :=
  Writes.becomes h fun output _ ⟨hout, _⟩ _ =>
    ⟨.text output.toList .done, becomes_text hout, ⟨List.append_nil _, fun _ => rfl⟩⟩

/-! ### Putting renderings together -/

theorem writes_pure {a : α} (h : r a .done) : S.Writes r (pure a) := by
  intro s b t hs hx
  cases hx
  exact ⟨hs, .done, [], h, .refl _⟩

theorem gives_pure {a : α} (h : P a) : S.Gives P (pure a) := writes_pure ⟨h, rfl⟩

theorem writes_throw (e : Error) : S.Writes r (throw e) := by
  intro s a t _ hx
  cases hx

/-- A result that does not look at the state. -/
theorem gives_lift {result : Except Error α} (h : ∀ a, result = .ok a → P a) :
    S.Gives P (ExceptT.mk (pure result)) := by
  intro s a t hs hx
  cases result with
  | error e => cases hx
  | ok b =>
    cases hx
    exact ⟨hs, .done, [], ⟨h _ rfl, rfl⟩, .refl _⟩

theorem gives_get : S.Gives S.State get := by
  intro s a t hs hx
  cases hx
  exact ⟨hs, .done, [], ⟨hs, rfl⟩, .refl _⟩

/-- A change that leaves the slots as they are. -/
theorem gives_modify {f : RenderState → RenderState} (hstate : ∀ s, S.State s → S.State (f s))
    (hslots : ∀ s, (f s).slots = s.slots) : S.Gives (fun _ => True) (modify f) := by
  intro s a t hs hx
  cases hx
  refine ⟨hstate s hs, .done, [], ⟨trivial, rfl⟩, ?_⟩
  rw [hslots]
  exact .refl _

/-- **One after the other**: the second output comes behind the first one. -/
theorem writes_bind {f : α → Rendering β} (h : S.Writes r x)
    (hf : ∀ a c, r a c → S.Writes (fun b d => q b (c.append d)) (f a)) : S.Writes q (x >>= f) := by
  intro s b t hs hx
  obtain ⟨a, u, hfirst, hsecond⟩ := outcome_bind_ok_iff.1 hx
  obtain ⟨hu, c, is, hr, hgrows⟩ := h s a u hs hfirst
  obtain ⟨ht, d, js, hq, hgrows'⟩ := hf a c hr u b t hu hsecond
  exact ⟨ht, c.append d, is ++ js, hq, hgrows.trans hgrows'⟩

/-- A rendering without output comes first. -/
theorem gives_bind {f : α → Rendering β} (h : S.Gives P x) (hf : ∀ a, P a → S.Writes q (f a)) :
    S.Writes q (x >>= f) := by
  refine writes_bind h ?_
  rintro a _ ⟨ha, rfl⟩
  exact hf a ha

theorem append_done (c : Content) : c.append .done = c := by
  induction c with
  | done => rfl
  | text chars rest ih => rw [Content.append, ih]
  | slot name body rest _ ih => rw [Content.append, ih]

/-- A rendering without output of its own makes something of the output before. -/
theorem writes_bind_becomes {f : α → Rendering β} (h : S.Writes r x)
    (hf : ∀ a c, r a c → c.Clean → S.Gives (fun b => ∃ d, c.Becomes d ∧ q b d) (f a)) :
    S.Writes q (x >>= f) := by
  intro s b t hs hx
  obtain ⟨a, u, hfirst, hsecond⟩ := outcome_bind_ok_iff.1 hx
  obtain ⟨hu, c, is, hr, hgrows⟩ := h s a u hs hfirst
  have hclean := (hgrows.sound c List.mem_cons_self).clean
  obtain ⟨ht, _, js, ⟨⟨d, hd, hq⟩, rfl⟩, hgrows'⟩ := hf a c hr hclean u b t hu hsecond
  have htotal := hgrows.trans hgrows'
  rw [append_done] at htotal
  exact ⟨ht, d, is ++ js, hq, hd _ _ _ _ htotal⟩

theorem gives_map {f : α → β} (h : S.Gives P x) (hf : ∀ a, P a → Q (f a)) :
    S.Gives Q (f <$> x) := by
  rw [map_eq_pure_bind]
  exact gives_bind h fun a ha => gives_pure (hf a ha)

theorem writes_during {enter leave : RenderState → RenderState} (h : S.Writes r x)
    (henter : ∀ s, S.State s → S.State (enter s)) (hleave : ∀ s, S.State s → S.State (leave s))
    (hslots : ∀ s, (enter s).slots = s.slots) (hslots' : ∀ s, (leave s).slots = s.slots) :
    S.Writes r (during enter leave x) := by
  intro s a t hs hx
  rw [outcome_during] at hx
  obtain ⟨hresult, hstate⟩ := Prod.mk.inj hx
  obtain ⟨hu, c, is, hr, hgrows⟩ := h (enter s) a _ (henter s hs) (Prod.ext hresult rfl)
  rw [hslots, ← hslots' (x.outcome (enter s)).2, hstate] at hgrows
  exact ⟨hstate ▸ hleave _ hu, c, is, hr, hgrows⟩

theorem writes_adapt {f : Error → Error} (h : S.Writes r x) : S.Writes r (ExceptT.adapt f x) := by
  intro s a t hs hx
  rw [outcome_adapt] at hx
  obtain ⟨hresult, hstate⟩ := Prod.mk.inj hx
  exact h s a t hs (Prod.ext (mapError_eq_ok hresult) hstate)

/-- The attributes made on the way are a part of what is given. -/
theorem writes_withFrame (h : S.Writes r x) :
    S.Writes (fun a c => a.2.Unmarked ∧ r a.1 c) (withFrame x) := by
  intro s a t hs hx
  rw [outcome_withFrame] at hx
  have hempty : Frame.Unmarked .empty := List.forall_mem_nil _
  have hinner : S.State { s with frames := .empty :: s.frames } :=
    { hs with frames := List.forall_mem_cons.2 ⟨hempty, hs.frames⟩ }
  generalize hp : x.outcome { s with frames := .empty :: s.frames } = p at hx
  obtain ⟨result, u⟩ := p
  cases result with
  | error e => cases hx
  | ok b =>
    obtain ⟨hu, c, is, hr, hgrows⟩ := h _ b u hinner hp
    cases hx
    refine ⟨{ hu with frames := fun frame hframe => ?_ }, c, is, ⟨?_, hr⟩, hgrows⟩
    · exact hu.frames frame (List.mem_of_mem_tail hframe)
    · cases hframes : u.frames with
      | nil => exact hempty
      | cons frame frames => exact hu.frames frame (hframes ▸ List.mem_cons_self)

/-! ### Renderings in a row -/

theorem gives_foldlM {f : γ → α → Rendering γ} {R : γ → Prop} {l : List α}
    (hf : ∀ c a, R c → a ∈ l → S.Gives R (f c a)) {start : γ} (hstart : R start) :
    S.Gives R (l.foldlM f start) := by
  induction l generalizing start with
  | nil => exact gives_pure hstart
  | cons a l ih =>
    rw [List.foldlM_cons]
    refine gives_bind (hf start a hstart List.mem_cons_self) fun c hc => ?_
    exact ih (fun c a hc ha => hf c a hc (List.mem_cons_of_mem _ ha)) hc

theorem gives_mapM {f : α → Rendering β} {l : List α} (hf : ∀ a ∈ l, S.Gives Q (f a)) :
    S.Gives (fun bs => ∀ b ∈ bs, Q b) (l.mapM f) := by
  induction l with
  | nil => exact gives_pure (List.forall_mem_nil _)
  | cons a l ih =>
    rw [List.mapM_cons]
    refine gives_bind (hf a List.mem_cons_self) fun b hb => ?_
    refine gives_bind (ih fun a ha => hf a (List.mem_cons_of_mem _ ha)) fun bs hbs => ?_
    exact gives_pure (List.forall_mem_cons.2 ⟨hb, hbs⟩)

/-- A loop whose outputs are not used. -/
theorem gives_forIn {f : α → PUnit → Rendering (ForInStep PUnit)} {l : List α}
    (hf : ∀ a ∈ l, S.Gives (fun _ => True) (f a ⟨⟩)) : S.Gives (fun _ => True) (forIn l ⟨⟩ f) := by
  induction l with
  | nil => exact gives_pure trivial
  | cons a l ih =>
    rw [List.forIn_cons]
    refine gives_bind (hf a List.mem_cons_self) fun step _ => ?_
    cases step with
    | done => exact gives_pure trivial
    | yield => exact ih fun a ha => hf a (List.mem_cons_of_mem _ ha)

end Setup

end TagTemplate
