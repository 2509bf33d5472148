import ScriptLint.Proofs.Source.Component
import ScriptLint.Proofs.Source.Offset
import ScriptLint.Source.Parse

/-!
# Spans of nodes

The character span of a node is reached from its byte range over rows and
columns, on lines of the parsed text, and back to offsets, on lines of the file's
text.  The result is what counting the characters of the parsed text gives.
-/

namespace ScriptLint

namespace Source

/-- The file's text and the parsed text have their line feeds at the same
places. -/
def Aligned (source : Source) : Prop :=
  source.parsed.map (· == '\n') = source.text.map (· == '\n')

theorem aligned_ofText (parse : Parser) (path : Path) (text : List Char) :
    (ofText parse path text).Aligned := by
  unfold ofText Aligned
  split
  · exact Component.map_lineFeed_script text
  · rfl

theorem text_ofText (parse : Parser) (path : Path) (text : List Char) :
    (ofText parse path text).text = text := by
  unfold ofText
  split
  · rfl
  · rfl

namespace Aligned

theorem length_eq {source : Source} (aligned : source.Aligned) :
    source.parsed.length = source.text.length := by
  simpa using congrArg List.length aligned

/-- The position of a byte offset leads to the number of characters before it. -/
theorem offset_positionAt {source : Source} (aligned : source.Aligned)
    (offset : Nat) :
    source.offset (source.positionAt offset) =
      .ok (charsEndingBy source.parsed offset : Int) := by
  obtain ⟨row, column, line, start, reached, onLine, starts, counted⟩ :=
    pointAt_on_line source.parsed offset
  have startsAt : Text.get (Text.lineStarts source.text) ((row : Int) + 1 - 1) =
      .ok start := by
    rw [Int.add_sub_cancel, Text.get, Text.at?_of_nat,
      ← lineStarts_congr aligned, starts]
  have position : source.positionAt offset =
      ⟨row + 1, (charsWithin column line : Int) + 1⟩ := by
    simp [positionAt, reached, charColumn, onLine]
  rw [position, Source.offset]
  dsimp only
  rw [startsAt, charsEndingBy_eq_charsWithin, ← counted]
  change Except.ok ((start : Int) + (charsWithin column line + 1) - 1) = _
  rw [Except.ok.injEq]
  omega

theorem span?_eq {source : Source} (aligned : source.Aligned) (node : Node) :
    source.span? node =
      some ((charsEndingBy source.parsed node.startByte : Int),
        (charsEndingBy source.parsed node.endByte : Int)) := by
  simp only [span?, Source.start, Source.stop, aligned.offset_positionAt]

end Aligned

/-- On character boundaries, the characters that a span covers in the parsed text
are the text of the node. -/
theorem slice_parsed_eq_nodeText {source : Source} {node : Node}
    (starts : OnBoundary source.parsed node.startByte)
    (ends : OnBoundary source.parsed node.endByte) :
    Text.slice source.parsed (charsEndingBy source.parsed node.startByte)
        (charsEndingBy source.parsed node.endByte) =
      (source.nodeText node).toList := by
  obtain ⟨first, firstWithin, startByte⟩ := starts
  obtain ⟨last, lastWithin, endByte⟩ := ends
  rw [charsEndingBy_eq_charsWithin, charsEndingBy_eq_charsWithin, startByte, endByte,
    charsWithin_encode_take firstWithin, charsWithin_encode_take lastWithin,
    nodeText, startByte, endByte, bytesBetween_encode_take]
  simp [Text.slice, Text.sliceTo, Text.clamp_of_nat firstWithin,
    Text.clamp_of_nat lastWithin]

end Source

namespace Component

/-- Characters that blanking leaves as they are: those of script bodies and those
of line ends. -/
def Survives (text : List Char) (index : Nat) : Prop :=
  (∃ char, (marks text)[index]? = some (char, true)) ∨
    text[index]? = some '\r' ∨ text[index]? = some '\n'

theorem getElem?_script_of_survives {text : List Char} {index : Nat}
    (survives : Survives text index) :
    (ComponentScript.ofText text).text[index]? = text[index]? := by
  have inText : text[index]? = (marks text)[index]?.map Prod.fst := by
    rw [← List.getElem?_map, map_fst_marks]
  rw [← map_shown_marks, List.getElem?_map, inText]
  rcases survives with ⟨char, kept⟩ | lineEnd
  · rw [kept]
    rfl
  · rw [inText] at lineEnd
    cases found : (marks text)[index]? with
    | none => rfl
    | some mark =>
        obtain ⟨char, kept⟩ := mark
        rw [found] at lineEnd
        simp only [Option.map_some, Option.some.injEq] at lineEnd ⊢
        cases kept with
        | true => rfl
        | false =>
            rcases lineEnd with rfl | rfl
            · rfl
            · rfl

end Component

/-- Texts that agree between two positions have the same characters there. -/
private theorem slice_congr {left right : List Char} {first last : Nat}
    (sameLength : left.length = right.length)
    (agree : ∀ index, first ≤ index → index < last →
      left[index]? = right[index]?) :
    Text.slice left first last = Text.slice right first last := by
  apply List.ext_getElem?
  intro index
  simp only [Text.slice, Text.sliceTo, sameLength, Text.clamp_natCast,
    List.getElem?_drop, List.getElem?_take]
  split
  · exact agree _ (by omega) (by omega)
  · rfl

/-- The span of a node counts the characters of the parsed text that end by its
bytes.  On character boundaries it is where the text of the node stands, in the
parsed text always and in the file's text if nothing there was blanked. -/
theorem Source.span_counts_chars (parse : Parser) (path : Path) (text : List Char)
    (node : Node) :
    let source := Source.ofText parse path text
    let first := charsEndingBy source.parsed node.startByte
    let last := charsEndingBy source.parsed node.endByte
    source.span? node = some ((first : Int), (last : Int)) ∧
    (OnBoundary source.parsed node.startByte →
      OnBoundary source.parsed node.endByte →
      Text.slice source.parsed first last = (source.nodeText node).toList ∧
      (path.suffix ≠ ".vue" →
        source.fileText? node = some (source.nodeText node).toList) ∧
      (path.suffix = ".vue" →
        (∀ index, first ≤ index → index < last → Component.Survives text index) →
        source.fileText? node = some (source.nodeText node).toList)) := by
  intro source first last
  have aligned : source.Aligned := Source.aligned_ofText parse path text
  refine ⟨aligned.span?_eq node, ?_⟩
  intro starts ends
  have inParsed : Text.slice source.parsed first last =
      (source.nodeText node).toList := Source.slice_parsed_eq_nodeText starts ends
  have inFile : source.fileText? node = some (Text.slice source.text first last) := by
    rw [Source.fileText?, aligned.span?_eq]
    rfl
  refine ⟨inParsed, ?_, ?_⟩
  · intro plain
    have same : source.text = source.parsed := by
      simp [source, Source.ofText, plain]
    rw [inFile, same, inParsed]
  · intro component untouched
    have script : source.parsed = (ComponentScript.ofText text).text := by
      simp [source, Source.ofText, component]
    have whole : source.text = text := by
      simp [source, Source.ofText, component]
    have agree : Text.slice source.text first last =
        Text.slice source.parsed first last := by
      apply slice_congr aligned.length_eq.symm
      intro index after before
      rw [script, whole,
        Component.getElem?_script_of_survives (untouched index after before)]
    rw [inFile, agree, inParsed]

/-- The opening tag, the body and the closing tag of a script. -/
private def scriptParts : List Char × List Char × List Char :=
  (['<', 's', 'c', 'r', 'i', 'p', 't', '>'], ['\r', '\n', 'ü'],
    ['<', '/', 's', 'c', 'r', 'i', 'p', 't', '>'])

/-- A component with letters of two bytes outside of its script and in it. -/
def accentedComponent : List Char :=
  'é' :: (scriptParts.1 ++ scriptParts.2.1 ++ scriptParts.2.2)

/-- A node over the whole script of the component. -/
def accentedScript : Node :=
  ⟨"program", true, false, false, 9, 13, none, []⟩

private theorem pieces_accentedComponent :
    Component.pieces accentedComponent =
      [.outside 'é', .script scriptParts.1 [] scriptParts.2.1 scriptParts.2.2] := by
  have outside : Component.afterOpening? accentedComponent = none := by
    decide +kernel
  have opened : Component.afterOpening? accentedComponent.tail =
      some ([], scriptParts.2.1 ++ scriptParts.2.2) := by
    decide +kernel
  have closed : Component.splitAtClosing? (scriptParts.2.1 ++ scriptParts.2.2) =
      some (scriptParts.2.1, scriptParts.2.2, []) := by
    decide +kernel
  calc Component.pieces accentedComponent
      = .outside 'é' :: Component.pieces accentedComponent.tail :=
        Component.pieces_cons_outside outside
    _ = .outside 'é' :: .script scriptParts.1 [] scriptParts.2.1 scriptParts.2.2 ::
          Component.pieces [] :=
        congrArg _ (Component.pieces_cons_script opened closed)
    _ = _ := by rw [Component.pieces]

private theorem script_accentedComponent :
    (ComponentScript.ofText accentedComponent).text =
      "         \r\nü         ".toList := by
  rw [ComponentScript.ofText, pieces_accentedComponent]
  decide +kernel

theorem Source.span_counts_chars_accentedComponent :
    let source := Source.ofText (fun _ _ => accentedScript) (Path.ofString "a.vue")
      accentedComponent
    source.span? accentedScript = some (9, 12) ∧
      source.fileText? accentedScript =
        some (source.nodeText accentedScript).toList := by
  intro source
  have component : (Path.ofString "a.vue").suffix = ".vue" := by decide +kernel
  have parsed : source.parsed = "         \r\nü         ".toList := by
    rw [← script_accentedComponent]
    simp only [source, Source.ofText, component, if_true]
  obtain ⟨span, onBoundaries⟩ := Source.span_counts_chars (fun _ _ => accentedScript)
    (Path.ofString "a.vue") accentedComponent accentedScript
  have first : charsEndingBy source.parsed accentedScript.startByte = 9 := by
    rw [parsed]
    decide +kernel
  have last : charsEndingBy source.parsed accentedScript.endByte = 12 := by
    rw [parsed]
    decide +kernel
  have starts : OnBoundary source.parsed accentedScript.startByte := by
    rw [parsed]
    exact ⟨9, by decide +kernel, by decide +kernel⟩
  have ends : OnBoundary source.parsed accentedScript.endByte := by
    rw [parsed]
    exact ⟨12, by decide +kernel, by decide +kernel⟩
  refine ⟨by rw [span, first, last]; rfl, ?_⟩
  apply (onBoundaries starts ends).2.2 component
  intro index after before
  rw [first] at after
  rw [last] at before
  refine Or.inl ?_
  rw [Component.marks, pieces_accentedComponent]
  obtain rfl | rfl | rfl : index = 9 ∨ index = 10 ∨ index = 11 := by omega
  · exact ⟨'\r', by decide +kernel⟩
  · exact ⟨'\n', by decide +kernel⟩
  · exact ⟨'ü', by decide +kernel⟩

end ScriptLint
