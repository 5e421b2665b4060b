import TagTemplate.Proofs.Template.Places

/-!
# Sources behind a byte order mark

A byte order mark at the start is not counted when a source is cut into events. But lines and
slashes are looked up in the whole source, and there everything stands three bytes further on.

- `lineOf_cons`, `endsInSlash_mark`: what is looked up behind a mark;
- `Markup.earlier`: the same events, taken for earlier ones; `readSource_mark_eq`: where this makes
  no difference;
- `read_byteOrderMark`: **a source behind a mark is read as if its events stood three bytes
  earlier**: this changes lines and what is written of empty elements, and nothing else;
- `read_emptySource_differs`: a page that is not read to the same behind a mark.
-/

namespace TagTemplate

open Markup Text

/-! ## Looking behind a mark -/

theorem Text.newlinesIn_add (last position bytes : Nat) (cs : List Char) :
    newlinesIn 0 last (position + bytes) cs = newlinesIn 0 (last - bytes) position cs := by
  induction cs generalizing position with
  | nil => rfl
  | cons c cs ih =>
    have hlast : position + bytes < last ↔ position < last - bytes := by omega
    rw [newlinesIn, newlinesIn, Nat.add_right_comm, ih]
    simp only [Nat.zero_le, hlast]

/-- A character in front that is no line feed moves all lines on by its bytes. -/
theorem lineOf_cons {c : Char} (hc : c ≠ '\n') (source : List Char) (offset : Nat) :
    lineOf (c :: source) offset = lineOf source (offset - c.utf8Size) := by
  unfold lineOf
  rw [newlinesIn, if_neg fun h => hc h.1, newlinesIn_add, Nat.zero_add]

/-- A mark in front stays there. -/
theorem Text.trimEnd_mark (cs : List Char) : trimEnd ('\uFEFF' :: cs) = '\uFEFF' :: trimEnd cs := by
  have hmark : isBlank '\uFEFF' = false := by decide
  unfold trimEnd
  rw [List.reverse_cons, List.dropWhile_append, List.dropWhile_cons_of_neg (by simp [hmark])]
  split
  · rename_i hempty
    rw [List.isEmpty_iff.1 hempty]
    rfl
  · rw [List.reverse_append]
    rfl

/-- A slash behind a mark ends the text in front if it does without the mark. -/
theorem Text.isSome_dropEnding_mark (cs : List Char) :
    (dropEnding? ['/', '>'] ('\uFEFF' :: cs)).isSome = (dropEnding? ['/', '>'] cs).isSome := by
  rw [Bool.eq_iff_iff, Option.isSome_iff_exists, Option.isSome_iff_exists]
  simp only [dropEnding?_eq_some_iff]
  constructor
  · rintro ⟨_ | ⟨c, rest⟩, hrest⟩
    · cases hrest
    · exact ⟨rest, (List.cons.inj hrest).2⟩
  · rintro ⟨rest, rfl⟩
    exact ⟨'\uFEFF' :: rest, rfl⟩

theorem Builder.endsInSlash_mark (source : List Char) (offset : Nat) :
    endsInSlash ('\uFEFF' :: source) offset = endsInSlash source (offset - 3) := by
  have hsize : '\uFEFF'.utf8Size = 3 := by decide
  have hnothing : takeBytes? 0 source = some [] := by rw [takeBytes?]
  unfold endsInSlash
  rcases Nat.lt_or_ge offset 3 with hinside | hbehind
  · rw [Nat.sub_eq_zero_of_le hinside.le, hnothing]
    cases offset with
    | zero => rw [takeBytes?]
    | succ offset =>
      rw [takeBytes?, hsize, if_neg (by omega)]
      · rfl
      · exact Nat.succ_ne_zero offset
  · obtain ⟨offset, rfl⟩ := Nat.exists_eq_add_of_le' hbehind
    rw [takeBytes?, hsize, if_pos hbehind, Nat.add_sub_cancel, Option.any_map]
    · congr 1
      funext before
      show (dropEnding? ['/', '>'] (trimEnd ('\uFEFF' :: before))).isSome = _
      rw [trimEnd_mark, isSome_dropEnding_mark]
    · exact Nat.succ_ne_zero (offset + 2)

/-! ## Events behind a mark -/

namespace Markup

/-- The event, taken for one that stands so many bytes earlier. -/
def Located.earlier (bytes : Nat) (e : Located) : Located :=
  ⟨e.event, e.first - bytes, e.last - bytes⟩

/-- What a source was cut into, taken for what stands so many bytes earlier. -/
def earlier (bytes : Nat) (read : List Located × Option Failure) : List Located × Option Failure :=
  (read.1.map (Located.earlier bytes), read.2.map fun f => ⟨f.fault, f.position - bytes⟩)

/-- A mark is not counted. -/
theorem events_mark {source : List Char} (hsource : source.head? ≠ some '\uFEFF') :
    events ('\uFEFF' :: source) = events source := by
  have hdrop : dropByteOrderMark ('\uFEFF' :: source) = source := rfl
  unfold events
  rw [hdrop, dropByteOrderMark_of_head? hsource]

end Markup

variable {source : List Char}

theorem readSource_mark (hsource : source.head? ≠ some '\uFEFF') (sourcePath : String)
    (fold : Bool) :
    Template.readSource ('\uFEFF' :: source) sourcePath fold =
      Template.ofEvents source (earlier 3 (events source)) sourcePath fold := by
  have hsize : '\uFEFF'.utf8Size = 3 := by decide
  have hline : ∀ offset, lineOf source (offset - 3) = lineOf ('\uFEFF' :: source) offset :=
    fun offset => hsize ▸ (lineOf_cons (by decide) source offset).symm
  rw [readSource_eq_ofEvents, events_mark hsource]
  obtain ⟨es, failure⟩ := events source
  refine ofEvents_congr ?_ ?_ ?_ sourcePath fold
  · refine List.forall₂_map_right_iff.2 (List.forall₂_same.2 fun e _ => ⟨rfl, hline e.first, ?_⟩)
    exact fun _ => (Builder.endsInSlash_mark source e.last).symm
  · cases failure with
    | none => rfl
    | some f => exact congrArg (fun line => some (f.fault, line)) (hline f.position).symm
  · rw [← hline, byteLength_cons, hsize, Nat.add_sub_cancel_left]

/-- A mark makes no difference where three bytes make none. -/
theorem readSource_mark_eq (hsource : source.head? ≠ some '\uFEFF')
    (hplaces : ∀ e ∈ (events source).1, e.SamePlace source source (e.earlier 3))
    (hfailure : ∀ f, (events source).2 = some f →
      lineOf source (f.position - 3) = lineOf source f.position) (sourcePath : String)
    (fold : Bool) :
    Template.readSource ('\uFEFF' :: source) sourcePath fold =
      Template.readSource source sourcePath fold := by
  rw [readSource_mark hsource, readSource_eq_ofEvents]
  generalize events source = read at hplaces hfailure ⊢
  obtain ⟨es, failure⟩ := read
  refine (ofEvents_congr ?_ ?_ rfl sourcePath fold).symm
  · exact List.forall₂_map_right_iff.2 (List.forall₂_same.2 hplaces)
  · cases failure with
    | none => rfl
    | some f => exact congrArg (fun line => some (f.fault, line)) (hfailure f rfl).symm

/-- **A template behind a byte order mark is read as if its events stood three bytes earlier.** It
has the same shape as without the mark, or the error is the same but for lines; and it is the same
where on three bytes fewer there is the same line, and the same in front of the end of a closing
tag. -/
theorem read_byteOrderMark {source : String} (hsource : source.toList.head? ≠ some '\uFEFF')
    (sourcePath : String) (fold : Bool) :
    Template.read ("\uFEFF" ++ source) sourcePath fold =
        (Template.ofEvents source.toList (earlier 3 (events source.toList)) sourcePath
          fold).mapError (Error.withFile sourcePath) ∧
      Corresponds Error.SameButLines (fun t t' => t'.shape fold = t.shape fold)
        (Template.read source sourcePath fold)
        (Template.read ("\uFEFF" ++ source) sourcePath fold) ∧
      ((∀ e ∈ (events source.toList).1,
          e.SamePlace source.toList source.toList (e.earlier 3)) →
        (∀ f, (events source.toList).2 = some f →
          lineOf source.toList (f.position - 3) = lineOf source.toList f.position) →
        Template.read ("\uFEFF" ++ source) sourcePath fold =
          Template.read source sourcePath fold) := by
  have hmarked : Template.read ("\uFEFF" ++ source) sourcePath fold =
      (Template.readSource ('\uFEFF' :: source.toList) sourcePath fold).mapError
        (Error.withFile sourcePath) := by
    rw [Template.read, String.toList_append]
    rfl
  refine ⟨?_, ?_, fun hplaces hfailure => ?_⟩
  · rw [hmarked, readSource_mark hsource]
  · rw [hmarked, Template.read, readSource_eq_ofEvents, readSource_eq_ofEvents,
      events_mark hsource]
    -- the same events are read, at most their lines differ
    have hevents : List.Forall₂ (fun e e' : Located => e'.event = e.event) (events source.toList).1
        (events source.toList).1 := List.forall₂_same.2 fun _ _ => rfl
    exact (alike_ofEvents hevents rfl sourcePath fold).mapError fun _ _ h => h.withFile sourcePath
  · rw [hmarked, readSource_mark_eq hsource hplaces hfailure]
    rfl

/-- A page that is indented by four bytes. -/
def indentedSource : String := "<r>\n    <b tl:cond=\"x\">text</b>\n    </r>"

/-- Nothing in the page stands too close to the beginning of its line. -/
theorem read_byteOrderMark_indentedSource :
    indentedSource.toList.head? ≠ some '\uFEFF' ∧
    (∀ e ∈ (events indentedSource.toList).1,
      e.SamePlace indentedSource.toList indentedSource.toList (e.earlier 3)) ∧
    Template.read ("\uFEFF" ++ indentedSource) "page.xml" true =
      Template.read indentedSource "page.xml" true := by
  have hplaces : ∀ e ∈ (events indentedSource.toList).1,
      e.SamePlace indentedSource.toList indentedSource.toList (e.earlier 3) := by
    have hlooked : ∀ e ∈ (events indentedSource.toList).1,
        lineOf indentedSource.toList (e.first - 3) = lineOf indentedSource.toList e.first ∧
          (e.event.closes = true → Builder.endsInSlash indentedSource.toList (e.last - 3) =
            Builder.endsInSlash indentedSource.toList e.last) := by
      decide +kernel
    exact fun e he => ⟨rfl, (hlooked e he).1, (hlooked e he).2⟩
  have hread : (events indentedSource.toList).2 = none := by decide +kernel
  refine ⟨by decide +kernel, hplaces, ?_⟩
  refine (read_byteOrderMark (by decide +kernel) "page.xml" true).2.2 hplaces fun f hf => ?_
  rw [hread] at hf
  cases hf

/-- A page with an empty element on its second line. -/
def emptySource : String := "<r>\n<a tl:cond=\"x\"/></r>"

/-- The page as it is read, with an element on a line that closes itself or not. -/
def emptyPage (line : Nat) (selfClosing : Bool) : Template :=
  ⟨"page.xml", "tl:", none,
    ⟨[⟨"r", "tl:", .empty, [.text "\n", .node 1], false, 1, none, "", none⟩,
      ⟨"a", "tl:", .ofList [("tl:cond", "x")], [], selfClosing, line, some 0, "\n", none⟩],
      some (.node 0)⟩⟩

/-- **Behind a mark the page is not read to the same**: its element is taken to stand on the first
line, and not to close itself. -/
theorem read_emptySource_differs :
    Template.read emptySource "page.xml" true = .ok (emptyPage 2 true) ∧
    Template.read ("\uFEFF" ++ emptySource) "page.xml" true = .ok (emptyPage 1 false) ∧
    Template.read ("\uFEFF" ++ emptySource) "page.xml" true ≠
      Template.read emptySource "page.xml" true := by
  have hplain : Template.read emptySource "page.xml" true = .ok (emptyPage 2 true) := by
    decide +kernel
  have hmarked : Template.read ("\uFEFF" ++ emptySource) "page.xml" true =
      .ok (emptyPage 1 false) := by decide +kernel
  refine ⟨hplain, hmarked, ?_⟩
  rw [hplain, hmarked]
  decide +kernel

end TagTemplate
