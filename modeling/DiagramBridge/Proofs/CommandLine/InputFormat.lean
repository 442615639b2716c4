import DiagramBridge.CommandLine.Run
import DiagramBridge.Proofs.Diagram.Storage
import DiagramBridge.Proofs.Drawio.Extraction
import DiagramBridge.Proofs.Drawio.Opening
import DiagramBridge.Proofs.Mermaid.WellFormed

/-!
# The format of an input

The command that prints a graph looks for itself whether the standard input holds a drawing: behind
the white space in front, a drawing has to begin with markup. The reader of drawings passes over a
byte-order mark as well. So every drawing that can be read is taken for one unless it has such a
mark; then it goes to the reader of Mermaid code, and whatever comes of that is not the graph of the
drawing, because nodes of drawings have boxes and nodes of Mermaid code have none.
-/

namespace DiagramBridge.CommandLine

open Text

/-! ## The command -/

/-- The command that prints the graph of what the standard input holds. -/
def printGraph : Command :=
  .graph "-" none 0

theorem parse_printGraph (settings : Settings) :
    Command.parse settings ["graph", "-i", "-"] = .ok printGraph := by
  have hverb : classify [.help] "graph" = .ok (.plain "graph") := rfl
  have hname : Verb.ofName? "graph" = some .graph := rfl
  have hcommand : Command.ofVerb settings .graph ["-i", "-"] = .ok (printGraph, false) := rfl
  rw [Command.parse, hverb]
  simp only [bind, Except.bind, hname, hcommand]

theorem isDrawing_standardInput (text : String) :
    isDrawing "-" text = ((trimStart text.toList).head? == some '<') := by
  have hsuffix : (drawingSuffixes.any fun suffix =>
      (beforeEnd? suffix (lower "-".toList)).isSome) = false := by
    decide
  rw [isDrawing, hsuffix, Bool.false_or]

/-! ## Two readers -/

/-- A drawing without a byte-order mark is taken for one. -/
theorem runOn_printGraph_of_markup {text : String} {reading : Drawio.Reading}
    (hread : (Drawio.read text 0).result = .ok reading)
    (hhead : (trimStart text.toList).head? = some '<') :
    printGraph.runOn text = .ofGraph reading.graph none := by
  have hdrawing : isDrawing "-" text = true := by
    rw [isDrawing_standardInput, hhead]
    rfl
  have hresult : (graphOf "-" text 0).result = .ok reading.graph := by
    rw [graphOf, if_pos hdrawing, Report.result_bind_of_ok hread]
    rfl
  have hnotices : (graphOf "-" text 0).notices = [] := by
    rw [graphOf, if_pos hdrawing]
    exact Report.notices_bind_eq_nil (Drawio.notices_read_zero hread) fun _ _ => rfl
  rw [printGraph, Command.runOn, Outcome.ofReport, hresult, hnotices]
  rfl

/-- With a byte-order mark a text is taken for Mermaid code. -/
theorem runOn_printGraph_of_mark {text : String}
    (hhead : (trimStart text.toList).head? = some '\ufeff') :
    printGraph.runOn text =
      .ofReport (.ofExcept (Mermaid.read text)) fun d => .ofGraph d.graph none := by
  have hdrawing : isDrawing "-" text = false := by
    rw [isDrawing_standardInput, hhead]
    rfl
  rw [printGraph, Command.runOn, graphOf, if_neg (by simp [hdrawing])]
  cases Mermaid.read text <;> rfl

/-- No graph that is read of Mermaid code is stored like one that is read of a drawing. -/
theorem store_ne_of_read {code drawing : String} {index : Int} {d : Mermaid.Diagram}
    {reading : Drawio.Reading} (hcode : Mermaid.read code = .ok d)
    (hdrawing : (Drawio.read drawing index).result = .ok reading) :
    d.graph.store ≠ reading.graph.store := by
  intro hstore
  obtain ⟨-, -, -, hne⟩ := Mermaid.exists_readBody_of_read hcode
  obtain ⟨-, selection, -, hne', rfl⟩ := Drawio.exists_select_of_read hdrawing
  have hn := List.head?_eq_some_head hne
  have hm := List.head?_eq_some_head hne'
  have hbox := Graph.isSome_geometry_of_store hstore hn hm
  have hsome := Drawio.geometry_ne_none_of_mem_extract (List.head_mem hne')
  rw [((Mermaid.isReadAs_of_read hcode).consists.nodes _ (List.head_mem hne)).geometry] at hbox
  exact hsome (Option.isNone_iff_eq_none.1 (Option.isSome_eq_false_iff.1 hbox.symm))

/-! ## All drawings -/

/-- **The format of an input.** Of every drawing that can be read, on the standard input the graph is
printed unless the drawing has a byte-order mark in front. With the mark it is read as Mermaid code,
and its graph is never printed. -/
theorem run_printGraph_eq_iff (settings : Settings) {text : String} {reading : Drawio.Reading}
    (h : (Drawio.read text 0).result = .ok reading) :
    ∃ command, Command.parse settings ["graph", "-i", "-"] = .ok command ∧
      command.source = .standardInput ∧
      (command.run (.ofInput text) = ⟨0, reading.graph.store ++ "\n", [], none⟩ ↔
        (trimStart text.toList).head? ≠ some '\ufeff') ∧
      ((trimStart text.toList).head? = some '\ufeff' → command.run (.ofInput text) =
        .ofReport (.ofExcept (Mermaid.read (onChars unifyLineBreaks text))) fun d =>
          .ofGraph d.graph none) := by
  have hunified : (Drawio.read (onChars unifyLineBreaks text) 0).result = .ok reading := by
    rwa [Drawio.read_unifyLineBreaks]
  have hstart : (trimStart (onChars unifyLineBreaks text).toList).head? =
      (trimStart text.toList).head? := by
    rw [toList_onChars, head?_trimStart_unifyLineBreaks]
  have hmarked (hmark : (trimStart text.toList).head? = some '\ufeff') :
      printGraph.run (.ofInput text) =
        .ofReport (.ofExcept (Mermaid.read (onChars unifyLineBreaks text))) fun d =>
          .ofGraph d.graph none :=
    runOn_printGraph_of_mark (hstart.trans hmark)
  refine ⟨printGraph, parse_printGraph settings, rfl, ⟨fun hrun hmark => ?_, fun hmark => ?_⟩,
    hmarked⟩
  · rw [hmarked hmark] at hrun
    cases hcode : Mermaid.read (onChars unifyLineBreaks text) with
    | error e =>
        rw [hcode] at hrun
        exact absurd (congrArg Outcome.exitCode hrun) Nat.one_ne_zero
    | ok d =>
        rw [hcode] at hrun
        have houtput : d.graph.store ++ "\n" = reading.graph.store ++ "\n" :=
          congrArg Outcome.output hrun
        exact store_ne_of_read hcode h ((String.append_left_inj _).1 houtput)
  · have hmarkup : (trimStart text.toList).head? = some '<' :=
      (Drawio.head?_of_read h).resolve_right hmark
    exact runOn_printGraph_of_markup hunified (hstart.trans hmarkup)

/-- A drawing of one node, below an empty line and with two kinds of line breaks. -/
def spacedDrawing : String :=
  "\r\n<mxGraphModel>\r<mxCell id=\"n\" vertex=\"1\"/></mxGraphModel>"

theorem run_printGraph_eq_iff_spacedDrawing :
    ∃ reading, (Drawio.read spacedDrawing 0).result = .ok reading ∧
      reading.graph.nodeIds = ["n"] ∧
        ∃ command, Command.parse {} ["graph", "-i", "-"] = .ok command ∧
          command.run (.ofInput spacedDrawing) = ⟨0, reading.graph.store ++ "\n", [], none⟩ := by
  have hids : ((Drawio.read spacedDrawing 0).result.map (·.graph.nodeIds)).toOption =
      some ["n"] := by
    decide +kernel
  have hhead : (trimStart spacedDrawing.toList).head? ≠ some '\ufeff' := by decide +kernel
  cases hread : (Drawio.read spacedDrawing 0).result with
  | error e =>
      rw [hread] at hids
      exact absurd hids (by simp [Except.map, Except.toOption])
  | ok reading =>
      rw [hread] at hids
      obtain ⟨command, hparse, -, hrun, -⟩ := run_printGraph_eq_iff {} hread
      exact ⟨reading, rfl, Option.some.inj hids, command, hparse, hrun.2 hhead⟩

/-- A drawing of one node behind a byte-order mark. -/
def markedDrawing : String :=
  "\ufeff<mxGraphModel><mxCell id=\"n\" vertex=\"1\"/></mxGraphModel>"

/-- The drawing can be read, and yet the command ends with an error. -/
theorem run_printGraph_markedDrawing :
    ((Drawio.read markedDrawing 0).result.map (·.graph.nodeIds)).toOption = some ["n"] ∧
      Command.parse {} ["graph", "-i", "-"] = .ok printGraph ∧
      printGraph.source = .standardInput ∧
      printGraph.run (.ofInput markedDrawing) = .failed "No nodes found in the Mermaid code" [] :=
  ⟨by decide +kernel, rfl, rfl, by decide +kernel⟩

end DiagramBridge.CommandLine
