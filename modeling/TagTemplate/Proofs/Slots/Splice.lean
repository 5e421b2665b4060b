import TagTemplate.Proofs.Slots.Pass
import TagTemplate.View

/-!
# What a splice takes away

Plugs take the place of as many bytes behind the anchor as were noted for the slot when its default
content was rendered. If other slots inside of that content are worked off first, or if the content
was changed on its way into the output, the number no longer fits, and the splice takes more or less
than the default content.

- `reconcileSlot?_eq_replace_iff`: a splice replaces the slot in the content exactly if the length
  noted for it ends with its default content;
- `reconcile_takes_following_text`: a rendering in which it does not. The content of one slot is
  mounted and then written inside of another one, so that the inner slot is the one noted first.
-/

namespace TagTemplate.Slots

open TagTemplate.Text

/-- **A splice replaces a slot exactly if the length noted for it fits**: it reaches the end of the
default content, and not the end of the character behind it. -/
theorem reconcileSlot?_eq_replace_iff {s : Slots} {c : Content} {name : String} {length : Nat}
    (hclean : c.Clean) (honce : c.names.count name = 1) (hplugs : s.plugs name ≠ [])
    (hlength : s.lengths.get? name = some length) :
    ∃ before body after, Content.HasSlot name body c ∧
      c.flatten = before ++ ((anchor name).toList ++ (body.flatten ++ after)) ∧
      ((s.reconcileSlot? name c.flatten).map Prod.fst =
          some (c.replace name fun _ => .text (joined (s.plugs name)).toList .done).flatten ↔
        byteLength body.flatten ≤ length ∧
          ∀ d ∈ after.head?, length < byteLength body.flatten + d.utf8Size) := by
  have hmem : name ∈ c.names := List.count_pos_iff.1 (by omega)
  obtain ⟨before, body, after, hslot, hfound, hreplace⟩ :=
    Content.breakOn?_flatten_of_mem hclean hmem (by omega) (Content.quiet_nil name)
  simp only [List.append_nil] at hfound
  refine ⟨before, body, after, hslot, breakOn?_eq_some hfound, ?_⟩
  -- what the splice leaves behind the plugs is the output without the noted number of bytes
  have hspliced : (s.reconcileSlot? name c.flatten).map Prod.fst =
      some (before ++ (joined (s.plugs name)).toList ++
        dropWithin length (body.flatten ++ after)) := by
    rw [reconcileSlot?, hfound]
    cases hp : s.plugs name with
    | nil => exact absurd hp hplugs
    | cons plug plugs => simp [hlength]
  rw [hspliced, hreplace, Option.some_inj, ← dropWithin_append_eq_iff]
  simp [Content.flatten]

/-! ## A length that no longer fits -/

/-- The content of the slot `in` is mounted, and the slot `out` writes it. -/
def mountedSource : String :=
  "<r><tl:mount target=\"m\"><b tl:slot=\"in\">B</b></tl:mount>" ++
    "<p tl:slot=\"out\"><tl:val value=\"/m\"/></p>kept text<q tl:plug=\"out\">Q</q></r>"

/-- The output and the slots of a template that is rendered without data, before any plug is put
in. -/
def rendered (source : String) : Option (String × Slots) :=
  (Template.read source View.textSource true).toOption.bind fun template =>
    let (result, state) :=
      (Rendering.renderTemplate
        (Rendering.renderNode (View.ofConfig .standard).environment nestingLimit) template).run
          (.start .empty (.empty "/" 0))
    result.toOption.map fun output => (output, state.slots)

/-- The output by its structure. -/
def mountedContent : Content :=
  .text "<r>".toList (.slot "out"
    (.text "<p>".toList (.slot "in" (.text "<b>B</b>".toList .done) (.text "</p>".toList .done)))
    (.text "kept text</r>".toList .done))

/-- The slots of the output, the inner one first. -/
def mountedSlots : Slots := ⟨⟨[("in", 8), ("out", 24)]⟩, [("out", ⟨"<q>Q</q>", false⟩)]⟩

/-- Once the inner slot is worked off, the length noted for the outer one would have to end with the
default content `<p><b>B</b></p>`. -/
theorem reconcileSlot?_mounted :
    ∃ before body after, Content.HasSlot "out" body (mountedContent.replace "in" id) ∧
      (mountedContent.replace "in" id).flatten =
        before ++ ((anchor "out").toList ++ (body.flatten ++ after)) ∧
      ((mountedSlots.reconcileSlot? "out" (mountedContent.replace "in" id).flatten).map Prod.fst =
          some ((mountedContent.replace "in" id).replace "out"
            fun _ => .text (joined (mountedSlots.plugs "out")).toList .done).flatten ↔
        byteLength body.flatten ≤ 24 ∧
          ∀ d ∈ after.head?, 24 < byteLength body.flatten + d.utf8Size) :=
  reconcileSlot?_eq_replace_iff (by decide) (by decide) (by decide) rfl

/-- **A splice may take text that follows the slot.** When the plug is put in, the anchor of the
inner slot is gone already, so that the length noted for the outer slot goes nine bytes too far: the
text behind the slot is lost, although it is no default content of any slot. -/
theorem reconcile_takes_following_text :
    rendered mountedSource = some (String.ofList mountedContent.flatten, mountedSlots) ∧
      mountedSlots.reconcileSlot? "in" mountedContent.flatten =
        some ((mountedContent.replace "in" id).flatten, mountedSlots) ∧
      String.ofList ((mountedContent.replace "in" id).replace "out"
        fun _ => .text (joined (mountedSlots.plugs "out")).toList .done).flatten =
          "<r><q>Q</q>kept text</r>" ∧
      (((View.ofConfig .standard).loadText mountedSource).render (.empty "/" 0)).1.toOption =
        some "<r><q>Q</q></r>" := by
  refine ⟨?_, ?_, ?_, ?_⟩ <;> decide +kernel

end TagTemplate.Slots
