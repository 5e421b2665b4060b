import Mathlib.Data.List.Basic
import Mathlib.Data.List.TakeDrop
import Mathlib.Data.List.TakeWhile
import TagTemplate.Text.Search

/-!
# Laws of searching and cutting

What `breakOn?` finds when the pattern begins with a character that the text in front of it does not
have, and where `dropWithin` cuts.

- `isPrefixOf?_eq_some_iff`: what a prefix leaves over;
- `breakOn?_append_of_notMem`: text without the pattern's first character is passed over;
- `breakOn?_append_mark`: text is cut at the first mark in it;
- `dropWithin_byteLength`: cutting by the exact length of a text takes that text;
- `dropWithin_append_eq_iff`: no other length does, up to the size of the character that follows.
-/

namespace TagTemplate.Text

theorem isPrefixOf?_eq_some_iff {pattern cs rest : List Char} :
    pattern.isPrefixOf? cs = some rest ↔ cs = pattern ++ rest :=
  List.isPrefixOf?_eq_some_iff_append_eq.trans eq_comm

@[simp] theorem isPrefixOf?_append (pattern rest : List Char) :
    pattern.isPrefixOf? (pattern ++ rest) = some rest :=
  isPrefixOf?_eq_some_iff.2 rfl

theorem isPrefixOf?_eq_none_iff {pattern cs : List Char} :
    pattern.isPrefixOf? cs = none ↔ ¬ pattern <+: cs := by
  rw [Option.eq_none_iff_forall_ne_some]
  constructor
  · rintro h ⟨rest, rfl⟩
    exact h rest (isPrefixOf?_append pattern rest)
  · intro h rest hrest
    exact h ⟨rest, (isPrefixOf?_eq_some_iff.1 hrest).symm⟩

theorem isPrefixOf?_cons_of_ne {p c : Char} (h : p ≠ c) (pattern cs : List Char) :
    (p :: pattern).isPrefixOf? (c :: cs) = none :=
  isPrefixOf?_eq_none_iff.2 fun hp => h (List.cons_prefix_cons.1 hp).1

/-- Text without an ending is what stands in front of it. -/
theorem dropEnding?_eq_some_iff {ending cs rest : List Char} :
    dropEnding? ending cs = some rest ↔ cs = rest ++ ending := by
  rw [dropEnding?, Option.map_eq_some_iff]
  constructor
  · rintro ⟨front, hfront, rfl⟩
    rw [isPrefixOf?_eq_some_iff] at hfront
    rw [← List.reverse_reverse cs, hfront, List.reverse_append, List.reverse_reverse]
  · rintro rfl
    refine ⟨rest.reverse, isPrefixOf?_eq_some_iff.2 ?_, List.reverse_reverse rest⟩
    rw [List.reverse_append]

/-- A cut where a condition ends takes all that meets it, up to the first character that does
not. -/
theorem span_append {p : Char → Bool} {cs rest : List Char} (hall : ∀ c ∈ cs, p c = true)
    (hrest : ∀ d ∈ rest.head?, p d = false) : (cs ++ rest).span p = (cs, rest) := by
  have hstop : rest.takeWhile p = [] ∧ rest.dropWhile p = rest := by
    cases rest with
    | nil => exact ⟨rfl, rfl⟩
    | cons d rest =>
      have hd : ¬ p d = true := Bool.eq_false_iff.1 (hrest d rfl)
      exact ⟨List.takeWhile_cons_of_neg hd, List.dropWhile_cons_of_neg hd⟩
  rw [List.span_eq_takeWhile_dropWhile, List.takeWhile_append_of_pos hall,
    List.dropWhile_append_of_pos hall, hstop.1, hstop.2, List.append_nil]

/-- A cut at a character takes all of a text without it. -/
theorem span_ne_of_notMem {d : Char} {cs : List Char} (h : d ∉ cs) :
    cs.span (fun c => c ≠ d) = (cs, []) := by
  have hspan : (cs ++ []).span (fun c => c ≠ d) = (cs, []) :=
    span_append (fun c hc => decide_eq_true fun hcd => h (hcd ▸ hc)) (by simp)
  rwa [List.append_nil] at hspan

/-- A cut at a character goes through all that comes in front of it. -/
theorem span_ne_append {d : Char} {cs : List Char} (h : d ∉ cs) (rest : List Char) :
    (cs ++ d :: rest).span (fun c => c ≠ d) = (cs, d :: rest) := by
  refine span_append (fun c hc => decide_eq_true fun hcd => h (hcd ▸ hc)) ?_
  rintro c ⟨⟩
  simp

/-- Puts text in front of what comes before a cut. -/
def prepend (text : List Char) (cut : List Char × List Char) : List Char × List Char :=
  (text ++ cut.1, cut.2)

@[simp] theorem prepend_nil : prepend [] = id := rfl

theorem map_prepend_prepend (text more : List Char) (cut : Option (List Char × List Char)) :
    (cut.map (prepend more)).map (prepend text) = cut.map (prepend (text ++ more)) := by
  cases cut <;> simp [prepend]

/-- What is found stands between what comes before and after it. -/
theorem breakOn?_eq_some {pattern cs before after : List Char}
    (h : breakOn? pattern cs = some (before, after)) : cs = before ++ (pattern ++ after) := by
  induction cs generalizing before with
  | nil =>
    rw [breakOn?] at h
    split at h
    · rename_i hempty
      cases h
      rw [List.isEmpty_iff.1 hempty]
      rfl
    · cases h
  | cons c cs ih =>
    rw [breakOn?] at h
    split at h
    · rename_i rest hrest
      cases h
      rw [isPrefixOf?_eq_some_iff.1 hrest]
      rfl
    · obtain ⟨⟨inner, after'⟩, hcut, heq⟩ := Option.map_eq_some_iff.1 h
      cases heq
      rw [List.cons_append, ← ih hcut]

/-- A place where the pattern does not begin is passed over. -/
theorem breakOn?_cons_of_notStart {pattern : List Char} {c : Char} {cs : List Char}
    (h : ¬ pattern <+: c :: cs) :
    breakOn? pattern (c :: cs) = (breakOn? pattern cs).map (prepend [c]) := by
  rw [breakOn?, isPrefixOf?_eq_none_iff.2 h]
  rfl

theorem breakOn?_append_self {pattern : List Char} (h : pattern ≠ []) (rest : List Char) :
    breakOn? pattern (pattern ++ rest) = some ([], rest) := by
  cases pattern with
  | nil => exact absurd rfl h
  | cons p pattern =>
    rw [List.cons_append, breakOn?, ← List.cons_append, isPrefixOf?_append]

/-- Text that does not have the first character of the pattern is passed over. -/
theorem breakOn?_append_of_notMem {mark : Char} {pattern text : List Char} (h : mark ∉ text)
    (rest : List Char) :
    breakOn? (mark :: pattern) (text ++ rest) =
      (breakOn? (mark :: pattern) rest).map (prepend text) := by
  induction text with
  | nil => simp
  | cons c text ih =>
    rw [List.mem_cons, not_or] at h
    have hc : ¬ mark :: pattern <+: c :: (text ++ rest) := fun hp =>
      h.1 (List.cons_prefix_cons.1 hp).1
    rw [List.cons_append, breakOn?_cons_of_notStart hc, ih h.2, map_prepend_prepend]
    rfl

/-- Text is cut at the first mark in it. -/
theorem breakOn?_append_mark {mark : Char} {text : List Char} (h : mark ∉ text)
    (rest : List Char) : breakOn? [mark] (text ++ mark :: rest) = some (text, rest) := by
  have hself := breakOn?_append_self (List.cons_ne_nil mark []) rest
  rw [List.singleton_append] at hself
  rw [breakOn?_append_of_notMem h, hself]
  simp [prepend]

theorem breakOn?_of_notMem {mark : Char} {pattern text : List Char} (h : mark ∉ text) :
    breakOn? (mark :: pattern) text = none := by
  have hrest : breakOn? (mark :: pattern) (text ++ []) = none := by
    rw [breakOn?_append_of_notMem h]
    rfl
  rwa [List.append_nil] at hrest

/-- The length of a text is that of its string. -/
theorem byteLength_toList (s : String) : byteLength s.toList = s.utf8ByteSize := by
  have hlist : ∀ cs : List Char, (String.ofList cs).utf8ByteSize = byteLength cs := by
    intro cs
    induction cs with
    | nil => rfl
    | cons c cs ih =>
      have hcons : String.ofList (c :: cs) = String.singleton c ++ String.ofList cs := by
        rw [← String.toList_inj]
        simp
      rw [hcons, String.utf8ByteSize_append, String.utf8ByteSize_singleton, ih, byteLength_cons]
  rw [← hlist, String.ofList_toList]

/-- A text that does not begin with a mark is left as it is. -/
theorem dropByteOrderMark_of_head? {cs : List Char} (h : cs.head? ≠ some '\uFEFF') :
    dropByteOrderMark cs = cs := by
  unfold dropByteOrderMark
  split
  · exact absurd rfl h
  · rfl

/-- The text before the byte that a text ends at is that text. -/
theorem takeBytes?_byteLength (cs rest : List Char) :
    takeBytes? (byteLength cs) (cs ++ rest) = some cs := by
  induction cs with
  | nil => rw [byteLength_nil, takeBytes?]
  | cons c cs ih =>
    have hpos := Char.utf8Size_pos c
    obtain ⟨n, hn⟩ : ∃ n, c.utf8Size + byteLength cs = n + 1 :=
      ⟨c.utf8Size + byteLength cs - 1, by omega⟩
    rw [byteLength_cons, List.cons_append, hn, takeBytes?, ← hn, if_pos (Nat.le_add_right _ _),
      Nat.add_sub_cancel_left, ih]
    · rfl
    · exact Nat.succ_ne_zero n

/-- Cutting by the exact length of a text takes that text and nothing else. -/
theorem dropWithin_byteLength (cs rest : List Char) :
    dropWithin (byteLength cs) (cs ++ rest) = rest := by
  induction cs with
  | nil =>
    cases rest with
    | nil => rfl
    | cons c rest =>
      have := Char.utf8Size_pos c
      simp only [byteLength_nil, List.nil_append, dropWithin]
      rw [if_neg (by omega)]
  | cons c cs ih =>
    rw [byteLength_cons, List.cons_append, dropWithin, if_pos (Nat.le_add_right _ _),
      Nat.add_sub_cancel_left, ih]

theorem length_dropWithin_le (bytes : Nat) (cs : List Char) :
    (dropWithin bytes cs).length ≤ cs.length := by
  induction cs generalizing bytes with
  | nil => exact Nat.le_refl _
  | cons c cs ih =>
    rw [dropWithin]
    split
    · exact Nat.le_succ_of_le (ih _)
    · exact Nat.le_refl _

/-- A cut takes a text and nothing else exactly if it reaches the end of the text, but not the end
of the character after it. -/
theorem dropWithin_append_eq_iff (bytes : Nat) (cs rest : List Char) :
    dropWithin bytes (cs ++ rest) = rest ↔
      byteLength cs ≤ bytes ∧ ∀ d ∈ rest.head?, bytes < byteLength cs + d.utf8Size := by
  induction cs generalizing bytes with
  | nil =>
    cases rest with
    | nil => simp [dropWithin]
    | cons d rest =>
      simp only [List.nil_append, byteLength_nil, Nat.zero_le, true_and, Nat.zero_add,
        List.head?_cons, Option.mem_some_iff, forall_eq']
      rw [dropWithin]
      split
      · rename_i hle
        have hlength := length_dropWithin_le (bytes - d.utf8Size) rest
        refine ⟨fun h => ?_, fun hlt => absurd hle (Nat.not_le.2 hlt)⟩
        rw [h, List.length_cons] at hlength
        omega
      · rename_i hlt
        exact ⟨fun _ => Nat.not_le.1 hlt, fun _ => rfl⟩
  | cons c cs ih =>
    rw [List.cons_append, dropWithin, byteLength_cons]
    split
    · rename_i hle
      rw [ih]
      refine and_congr (by omega) (forall₂_congr fun d _ => ?_)
      omega
    · rename_i hlt
      -- nothing is cut, so the text in front is still there
      refine ⟨fun h => ?_, fun h => absurd h.1 (by omega)⟩
      have hlength := congrArg List.length h
      rw [List.length_cons, List.length_append] at hlength
      omega

/-- Two texts up to the first mark are the same if one is a beginning of the other. -/
theorem eq_of_start_mark {mark : Char} {a b x y : List Char} (ha : mark ∉ a)
    (hb : mark ∉ b) (h : a ++ mark :: x <+: b ++ mark :: y) : a = b ∧ x <+: y := by
  induction a generalizing b with
  | nil =>
    cases b with
    | nil => exact ⟨rfl, (List.cons_prefix_cons.1 h).2⟩
    | cons d b =>
      rw [List.mem_cons, not_or] at hb
      exact absurd (List.cons_prefix_cons.1 h).1 hb.1
  | cons c a ih =>
    rw [List.mem_cons, not_or] at ha
    cases b with
    | nil => exact absurd (List.cons_prefix_cons.1 h).1.symm ha.1
    | cons d b =>
      rw [List.mem_cons, not_or] at hb
      obtain ⟨rfl, htail⟩ := List.cons_prefix_cons.1 h
      obtain ⟨rfl, hxy⟩ := ih ha.2 hb.2 htail
      exact ⟨rfl, hxy⟩

end TagTemplate.Text
