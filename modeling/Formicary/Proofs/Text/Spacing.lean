import Formicary.Proofs.Brain.Numbering
import Formicary.Proofs.World.Reference

/-!
# Spacing

What can be written in other ways without another meaning (`Text.spacing_irrelevant`): it does not
matter which line end a source uses, whether lines of blanks are appended to the source of a world,
and whether a line of blanks or a comment is put in between the lines of the source of a brain,
except that the lines behind it are then reported with the next number.

A world's source is read without the lines of blanks at its end, and lines of blanks that are
appended only add to these (`WorldMap.sourceLines_append`). The lines of a brain's source are
counted, and a line without content is counted like any other (`Brain.compile_insert`).
-/

namespace Formicary

open Text

namespace Text

/-- A source with more lines behind it, each with a line end of its own in front. -/
def appendLines (source : String) (tail : List (LineEnd × String)) : String :=
  tail.foldl (fun text line => text ++ (line.1.text ++ line.2)) source

end Text

namespace WorldMap

variable {source source' : String}

theorem sourceLines_congr (h : lines source.toList = lines source'.toList) :
    sourceLines source = sourceLines source' := by
  rw [sourceLines, sourceLines, h]

/-- Lines of blanks at the end are not among the lines of a source. -/
theorem sourceLines_eq_of_lines_eq {before behind : List (List Char)}
    (h : lines source.toList = before ++ behind) (hbehind : ∀ line ∈ behind, IsBlank line) :
    sourceLines source = (before.reverse.dropWhile (·.all isBlank)).reverse := by
  have hdrop : ∀ line ∈ behind.reverse, line.all isBlank = true := fun line hline =>
    List.all_eq_true.2 (hbehind line (List.mem_reverse.1 hline))
  rw [sourceLines, h, List.reverse_append, List.dropWhile_append_of_pos hdrop]

/-- A line end and blanks behind it do not change the lines of a source. -/
theorem sourceLines_append (source : String) (e : LineEnd) {blanks : String}
    (h : IsBlank blanks.toList) :
    sourceLines (source ++ (e.text ++ blanks)) = sourceLines source := by
  obtain ⟨before, last, rest, hsource, hlast, hrest, happended⟩ :=
    e.lines_append_behind source.toList blanks.toList
  -- An empty last line is as blank as what comes in its place.
  have hblank : IsBlank rest := fun c hc => h c (hrest.subset hc)
  have hlastBlank : ∀ line ∈ last, IsBlank line := by
    obtain rfl | rfl := hlast
    · exact nofun
    · intro line hline
      rw [List.mem_singleton.1 hline]
      exact nofun
  rw [← String.toList_append, ← String.toList_append] at happended
  rw [sourceLines_eq_of_lines_eq hsource hlastBlank,
    sourceLines_eq_of_lines_eq happended fun line => hblank.of_mem_lines]

theorem sourceLines_appendLines (source : String) {tail : List (LineEnd × String)}
    (h : ∀ line ∈ tail, IsBlank line.2.toList) :
    sourceLines (appendLines source tail) = sourceLines source := by
  induction tail generalizing source with
  | nil => rfl
  | cons line tail ih =>
    obtain ⟨hline, htail⟩ := List.forall_mem_cons.1 h
    exact (ih _ htail).trans (sourceLines_append source line.1 hline)

end WorldMap

namespace Brain

/-- A source is compiled from its lines. -/
theorem compile_congr {source source' : String}
    (h : lines source.toList = lines source'.toList) : compile source = compile source' := by
  rw [compile, compile, h]

/-- A line without content that is put in between lines that are joined only moves the lines behind
it down. -/
theorem compile_join_insert (e : LineEnd) {before after : List String} {idle : String}
    (hidle : IsIdle idle.toList) (h : ∀ l ∈ before ++ idle :: after, IsLine l.toList) :
    compile (e.join (before ++ idle :: after)) =
      (compile (e.join (before ++ after))).mapError
        (CompileError.renumber (numberAfter before.length)) := by
  have hjoined := e.lines_join (by simp) h
  by_cases hne : before ++ after = []
  · -- There is no line but this one, and the source without it has a single empty line.
    obtain ⟨rfl, rfl⟩ := List.append_eq_nil_iff.1 hne
    have hempty : lines (e.join ([] ++ [])).toList = [[]] := rfl
    have hnothing : cleanLine [] = [] := rfl
    refine compile_renumber ?_
    rw [content_eq, content_eq, hjoined, hempty]
    simp [hidle.cleanLine_eq, hnothing]
  · have hsub : List.Sublist (before ++ after) (before ++ idle :: after) :=
      (List.sublist_cons_self idle after).append_left before
    have hrest : ∀ l ∈ before ++ after, IsLine l.toList := fun l hl => h l (hsub.subset hl)
    rw [List.map_append, List.map_cons] at hjoined
    have hwithout := e.lines_join hne hrest
    rw [List.map_append] at hwithout
    have hinsert := compile_insert hidle hwithout hjoined
    rwa [List.length_map] at hinsert

end Brain

namespace Text

/-- The spacing of a source carries no meaning. Lines that are joined by any line end are compiled
to the same result, and read as a world with the same result by the basic rules and by those of a
contest. Lines of blanks behind a source do not change what world is read from it. A line of blanks
or a comment that is put in between the lines of a source leaves a brain that is compiled from it as
it is, and adds one to the number of the line in the report of a fault that lies behind it. -/
theorem spacing_irrelevant :
    (∀ (e e' : LineEnd) (ls : List String), (∀ l ∈ ls, IsLine l.toList) →
      Brain.compile (e.join ls) = Brain.compile (e'.join ls) ∧
        ∀ contest, WorldMap.parse (e.join ls) contest = WorldMap.parse (e'.join ls) contest) ∧
    (∀ (source : String) (tail : List (LineEnd × String)),
      (∀ line ∈ tail, IsBlank line.2.toList) → ∀ contest,
        WorldMap.parse (appendLines source tail) contest = WorldMap.parse source contest) ∧
    (∀ (e : LineEnd) (before after : List String) (idle : String), IsIdle idle.toList →
      (∀ l ∈ before ++ idle :: after, IsLine l.toList) →
        Brain.compile (e.join (before ++ idle :: after)) =
          (Brain.compile (e.join (before ++ after))).mapError
            (CompileError.renumber (numberAfter before.length))) ∧
    ∀ (source source' : String) (before after : List (List Char)) (idle : List Char),
      IsIdle idle → lines source.toList = before ++ after →
        lines source'.toList = before ++ idle :: after →
          Brain.compile source' = (Brain.compile source).mapError
            (CompileError.renumber (numberAfter before.length)) := by
  refine ⟨fun e e' ls h => ?_, fun source tail h contest => ?_,
    fun e before after idle hidle h => Brain.compile_join_insert e hidle h,
    fun source source' before after idle hidle h h' => Brain.compile_insert hidle h h'⟩
  · have hlines : lines (e.join ls).toList = lines (e'.join ls).toList := by
      cases ls with
      | nil => rfl
      | cons line ls =>
        rw [e.lines_join (List.cons_ne_nil _ _) h, e'.lines_join (List.cons_ne_nil _ _) h]
    refine ⟨Brain.compile_congr hlines, fun contest => ?_⟩
    rw [WorldMap.parse, WorldMap.parse, WorldMap.sourceLines_congr hlines]
  · rw [WorldMap.parse, WorldMap.parse, WorldMap.sourceLines_appendLines source h]

/-- The small world is read from its drawing with carriage returns and with lines of blanks behind
it. The report of a fault on the second line has the third line in it when a comment is put in, and
the report of a fault on the first line is as it was. -/
theorem spacing_irrelevant_clearing :
    let rows := ["5", "5", "# # # # #", " # + . 9 #", "# . 3 - #", " # . . . #", "# # # # #"]
    let tail := [(LineEnd.returnAndFeed, " \t"), (.carriageReturn, ""), (.lineFeed, "")]
    WorldMap.parse (LineEnd.carriageReturn.join rows) false = .ok WorldMap.clearing ∧
      WorldMap.parse (appendLines (LineEnd.lineFeed.join rows) tail) false =
        .ok WorldMap.clearing ∧
      Brain.compile (LineEnd.returnAndFeed.join ["drop 0", " ; mark", "mark 7 0"]) =
        .error (.markerOutOfRange 3 7) ∧
      Brain.compile "drop 9\r\nturn left 0\n;" = .error (.stateOutOfRange 1 9) := by
  intro rows tail
  obtain ⟨hends, htail, hjoin, hinsert⟩ := spacing_irrelevant
  have hrows : ∀ row ∈ rows, IsLine row.toList := by decide
  have hparse : WorldMap.parse (LineEnd.lineFeed.join rows) false = .ok WorldMap.clearing := by
    decide +kernel
  refine ⟨?_, ?_, ?_, ?_⟩
  · rw [(hends .carriageReturn .lineFeed rows hrows).2 false, hparse]
  · rw [htail _ tail (by decide) false, hparse]
  · have hidle : IsIdle " ; mark".toList := ⟨[' '], "; mark".toList, rfl, by decide, .inr rfl⟩
    exact (hjoin .returnAndFeed ["drop 0"] ["mark 7 0"] _ hidle (by decide)).trans
      (by decide +kernel)
  · have hidle : IsIdle [';'] := ⟨[], [';'], rfl, by decide, .inr rfl⟩
    exact (hinsert "drop 9\r\nturn left 0" _ ["drop 9".toList, "turn left 0".toList] [] _ hidle
      (by decide +kernel) (by decide +kernel)).trans (by decide +kernel)

end Text

end Formicary
