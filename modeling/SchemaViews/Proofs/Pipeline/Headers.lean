import SchemaViews.Proofs.Directive.ListForms
import SchemaViews.Proofs.Pipeline.Emission

/-!
# Headers are comments

A header may hold any characters. Its lines are cut at more places than a document's lines are, so
that each becomes one comment, and no part of a header leaves its comment.
-/

namespace SchemaViews

namespace Document

open SchemaViews.Text

/-- The lines of a document, which end at a line feed, a carriage return, or one and the other. -/
def documentLines : List Char → List (List Char)
  | [] => [[]]
  | '\r' :: '\n' :: rest => [] :: documentLines rest
  | c :: rest =>
    if isLineEnd c then [] :: documentLines rest else extendFirst c (documentLines rest)

def headerComments (header : String) : List (List Char) :=
  (splitLines (dropTrailingNewlines header.toList)).map commentLine

/-- What a header puts in front of a text: its comments, and a blank line. -/
def headerBlock (header : String) : List Char :=
  ['\n'].intercalate (headerComments header) ++ ['\n', '\n']

def front (headers : List String) : List Char :=
  headers.reverse.flatMap headerBlock

/-- Reading passes over line ends, and over comments up to the end of their line. -/
structure SkipsComments {α : Type} (read : List Char → α) : Prop where
  lineEnd : ∀ c rest, isLineEnd c = true → read (c :: rest) = read rest
  comment : ∀ comment c rest, (∀ d ∈ comment, isLineEnd d = false) → isLineEnd c = true →
    read ('#' :: comment ++ c :: rest) = read (c :: rest)

/-- The result is the text behind blocks of comments, and it reads as the text does. -/
structure IsCommented (headers : List String) (text result : String) : Prop where
  split : result.toList = front headers ++ text.toList
  lines : ∀ line ∈ documentLines (front headers), line = [] ∨ line.head? = some '#'
  ends : headers ≠ [] → ∃ c, (front headers).getLast? = some c ∧ isLineEnd c = true
  reads : ∀ {α : Type} (read : List Char → α), SkipsComments read →
    read result.toList = read text.toList
  tokens : lexemes result.toList = lexemes text.toList
  document : read? result.toList = read? text.toList

def linesText (lines : List (List Char)) : List Char :=
  lines.flatMap (· ++ ['\n'])

/-- A line of a header as it stands in a document: it is empty, or it is a comment and ends where
the document's line does. -/
def IsHeaderLine (line : List Char) : Prop :=
  (line = [] ∨ line.head? = some '#') ∧ ∀ c ∈ line, isLineEnd c = false

def IsHeaderText (text : List Char) : Prop :=
  ∃ lines, text = linesText lines ∧ ∀ line ∈ lines, IsHeaderLine line

variable {line text rest : List Char} {lines : List (List Char)}

theorem linesText_cons (line : List Char) (lines : List (List Char)) :
    linesText (line :: lines) ++ rest = line ++ '\n' :: (linesText lines ++ rest) := by
  simp [linesText]

theorem documentLines_append_cons (hline : ∀ c ∈ line, isLineEnd c = false) :
    documentLines (line ++ '\n' :: rest) = line :: documentLines rest := by
  induction line with
  | nil =>
      rw [List.nil_append, documentLines, if_pos (by decide)]
      exact fun _ hreturn _ => absurd hreturn (by decide)
  | cons c line ih =>
      obtain ⟨hc, hline⟩ := List.forall_mem_cons.1 hline
      rw [List.cons_append, documentLines, hc, if_neg Bool.false_ne_true, ih hline]
      · rfl
      · rintro _ rfl _
        exact absurd hc (by decide)

/-- Lines that are written one by one are read back, and what comes behind
them does not change them. -/
theorem documentLines_linesText (rest : List Char)
    (hlines : ∀ line ∈ lines, ∀ c ∈ line, isLineEnd c = false) :
    documentLines (linesText lines ++ rest) = lines ++ documentLines rest := by
  induction lines with
  | nil => rfl
  | cons line lines ih =>
      obtain ⟨hline, hlines⟩ := List.forall_mem_cons.1 hlines
      rw [linesText_cons, documentLines_append_cons hline, ih hlines]
      rfl

theorem isLineBreak_of_isLineEnd {c : Char} (h : isLineEnd c = true) : isLineBreak c = true := by
  simp only [isLineEnd, Bool.or_eq_true, beq_iff_eq] at h
  rcases h with rfl | rfl <;> decide

theorem forall_mem_extendFirst {accepts : Char → Prop} {c : Char} (hc : accepts c)
    (hlines : ∀ line ∈ lines, ∀ d ∈ line, accepts d) :
    ∀ line ∈ extendFirst c lines, ∀ d ∈ line, accepts d := by
  cases lines with
  | nil => simpa [extendFirst] using hc
  | cons first lines =>
      obtain ⟨hfirst, hlines⟩ := List.forall_mem_cons.1 hlines
      exact List.forall_mem_cons.2 ⟨List.forall_mem_cons.2 ⟨hc, hfirst⟩, hlines⟩

theorem not_isLineEnd_of_mem_splitLines :
    ∀ line ∈ splitLines text, ∀ c ∈ line, isLineEnd c = false := by
  fun_induction splitLines text with
  | case1 => simp
  | case2 rest ih => exact List.forall_mem_cons.2 ⟨by simp, ih⟩
  | case3 c rest _ _ ih => exact List.forall_mem_cons.2 ⟨by simp, ih⟩
  | case4 c rest _ hbreak ih =>
      exact forall_mem_extendFirst (Bool.eq_false_iff.2 (mt isLineBreak_of_isLineEnd hbreak)) ih

theorem not_isLineEnd_of_mem_commentLine (hline : ∀ c ∈ line, isLineEnd c = false) :
    ∀ c ∈ commentLine line, isLineEnd c = false := by
  rw [commentLine]
  split
  · exact hline
  · intro c hc
    have hkept := stripEnd_prefix ('#' :: ' ' :: line)
    have hmem := hkept.subset hc
    rw [List.mem_cons, List.mem_cons] at hmem
    rcases hmem with rfl | rfl | hmem
    · decide
    · decide
    · exact hline c hmem

theorem head?_commentLine (line : List Char) : (commentLine line).head? = some '#' := by
  rw [commentLine]
  split
  · rename_i h
    exact eq_of_beq h
  · rw [← List.singleton_append, stripEnd_append]
    split <;> rfl

theorem isHeaderLine_of_mem_headerComments (header : String) :
    ∀ line ∈ headerComments header, IsHeaderLine line := by
  refine List.forall_mem_map.2 fun line hline => ⟨.inr (head?_commentLine line), ?_⟩
  exact not_isLineEnd_of_mem_commentLine (not_isLineEnd_of_mem_splitLines line hline)

theorem intercalate_append_lineFeed (line : List Char) (lines : List (List Char)) :
    ['\n'].intercalate (line :: lines) ++ ['\n'] = linesText (line :: lines) := by
  induction lines generalizing line with
  | nil => simp [linesText]
  | cons next lines ih =>
      rw [List.intercalate_cons_of_ne_nil (List.cons_ne_nil next lines), List.append_assoc, ih]
      rfl

theorem IsHeaderText.append {first second : List Char} (hfirst : IsHeaderText first)
    (hsecond : IsHeaderText second) : IsHeaderText (first ++ second) := by
  obtain ⟨lines, rfl, hlines⟩ := hfirst
  obtain ⟨others, rfl, hothers⟩ := hsecond
  exact ⟨lines ++ others, List.flatMap_append.symm, List.forall_mem_append.2 ⟨hlines, hothers⟩⟩

theorem isHeaderText_lineFeed : IsHeaderText ['\n'] :=
  ⟨[[]], rfl, by simp [IsHeaderLine]⟩

theorem isHeaderText_headerBlock (header : String) : IsHeaderText (headerBlock header) := by
  have hcomments := isHeaderLine_of_mem_headerComments header
  unfold headerBlock
  cases hlines : headerComments header with
  -- No lines are joined to an empty text, so that the two line feeds end two empty lines.
  | nil => exact isHeaderText_lineFeed.append isHeaderText_lineFeed
  | cons line lines =>
      rw [hlines] at hcomments
      have hblock : IsHeaderText (['\n'].intercalate (line :: lines) ++ ['\n']) :=
        ⟨line :: lines, intercalate_append_lineFeed line lines, hcomments⟩
      simpa using hblock.append isHeaderText_lineFeed

theorem isHeaderText_front (headers : List String) : IsHeaderText (front headers) := by
  unfold front
  induction headers.reverse with
  | nil => exact ⟨[], rfl, List.forall_mem_nil _⟩
  | cons header headers ih => exact (isHeaderText_headerBlock header).append ih

theorem toList_addHeader (header text : String) :
    (addHeader header text).toList = headerBlock header ++ text.toList := by
  have hlines : ((headerComments header).map String.ofList).map String.toList =
      headerComments header := by
    simp [Function.comp_def]
  calc
    (addHeader header text).toList =
        (joinLines ((headerComments header).map String.ofList)).toList ++ ['\n', '\n'] ++
          text.toList := by
      rw [addHeader, headerComments, List.map_map, String.toList_append, String.toList_append]
      rfl
    _ = headerBlock header ++ text.toList := by
      rw [joinLines, String.toList_intercalate, hlines, headerBlock]
      rfl

/-- Every header goes in front of what the headers before it have made. -/
theorem toList_addHeaders (headers : List String) (text : String) :
    (addHeaders headers text).toList = front headers ++ text.toList := by
  unfold addHeaders front
  induction headers generalizing text with
  | nil => rfl
  | cons header headers ih =>
      calc
        ((header :: headers).foldl (fun content header => addHeader header content) text).toList =
            headers.reverse.flatMap headerBlock ++ (headerBlock header ++ text.toList) := by
          rw [List.foldl_cons, ih, toList_addHeader]
        _ = (header :: headers).reverse.flatMap headerBlock ++ text.toList := by
          rw [List.reverse_cons, List.flatMap_append, List.flatMap_singleton, List.append_assoc]

theorem exists_getLast?_front {headers : List String} (h : headers ≠ []) :
    ∃ c, (front headers).getLast? = some c ∧ isLineEnd c = true := by
  obtain ⟨header, others, rfl⟩ := List.exists_cons_of_ne_nil h
  refine ⟨'\n', ?_, rfl⟩
  simp [front, headerBlock]

namespace SkipsComments

variable {α : Type} {read : List Char → α}

theorem read_linesText (h : SkipsComments read) (hlines : ∀ line ∈ lines, IsHeaderLine line) :
    read (linesText lines ++ rest) = read rest := by
  induction lines with
  | nil => rfl
  | cons line lines ih =>
      obtain ⟨⟨hcomment, hline⟩, hlines⟩ := List.forall_mem_cons.1 hlines
      rw [linesText_cons, ← ih hlines, ← h.lineEnd '\n' (linesText lines ++ rest) rfl]
      cases line with
      | nil => rfl
      | cons c comment =>
          obtain rfl : c = '#' := by simpa using hcomment
          exact h.comment comment '\n' _ (List.forall_mem_cons.1 hline).2 rfl

end SkipsComments

theorem skipsComments_lexemes : SkipsComments lexemes where
  lineEnd _ rest hend := lexemes_ignored (isIgnored_of_isLineEnd hend) rest
  comment comment c rest hcomment hend := by
    rw [List.cons_append, lexemes_comment, List.dropWhile_append_of_pos (by simpa using hcomment),
      List.dropWhile_cons_of_neg (by simp [hend])]

theorem read?_congr {first second : List Char} (h : lexemes first = lexemes second) :
    read? first = read? second := by
  simp only [read?, h]

theorem isCommented_addHeaders (headers : List String) (text : String) :
    IsCommented headers text (addHeaders headers text) := by
  obtain ⟨lines, hfront, hlines⟩ := isHeaderText_front headers
  have hreads {α : Type} (read : List Char → α) (h : SkipsComments read) :
      read (addHeaders headers text).toList = read text.toList := by
    rw [toList_addHeaders, hfront, h.read_linesText hlines]
  have htokens := hreads lexemes skipsComments_lexemes
  refine ⟨toList_addHeaders headers text, ?_, exists_getLast?_front, hreads, htokens,
    read?_congr htokens⟩
  have hdocument := documentLines_linesText [] fun line hline => (hlines line hline).2
  rw [List.append_nil, ← hfront] at hdocument
  rw [hdocument]
  refine List.forall_mem_append.2 ⟨fun line hline => (hlines line hline).1, ?_⟩
  simp [documentLines]

end Document

namespace Pipeline

/-- Headers only change the text of a run, and they only put comments in front of it. -/
theorem run_eq_map_addHeaders (settings : Settings) (filters : List ViewFilter)
    (headers : List String) (declarations : List Declaration) :
    run settings filters headers declarations =
      (run { settings with header := none } filters [] declarations).map fun plain =>
        { plain with text := Document.addHeaders (headers ++
          (nonempty settings.header).toList) plain.text } := by
  have hresolve : resolve { settings with header := none } declarations =
    resolve settings declarations := rfl
  rw [run, run, hresolve]
  cases resolve settings declarations with
  | error failure => rfl
  | ok schema =>
      simp only [render]
      split
      · rfl
      · split
        · split <;> rfl
        · rfl

/-- Headers only put comments in front of a text, the last one first, and whoever passes
over comments reads the text as it was. Those of a run and of its settings change
nothing else about its outcome. -/
theorem headers_only_comment :
    (∀ headers text, Document.IsCommented headers text (Document.addHeaders headers text)) ∧
      ∀ (settings : Settings) (filters : List ViewFilter) (headers : List String)
        (declarations : List Declaration),
        run settings filters headers declarations =
          ((run { settings with header := none } filters [] declarations).map fun plain =>
            { plain with text := Document.addHeaders (headers ++
              (nonempty settings.header).toList) plain.text }) ∧
        ∀ output, run settings filters headers declarations = .ok output →
          ∃ plain, run { settings with header := none } filters [] declarations = .ok plain ∧
            output.schema = plain.schema ∧ output.warnings = plain.warnings ∧
            Document.IsCommented (headers ++ (nonempty settings.header).toList) plain.text
            output.text := by
  refine ⟨Document.isCommented_addHeaders, fun settings filters headers declarations => ?_⟩
  have hrun := run_eq_map_addHeaders settings filters headers declarations
  refine ⟨hrun, fun output houtput => ?_⟩
  rw [hrun] at houtput
  obtain ⟨plain, hplain, rfl⟩ := map_eq_ok_iff.1 houtput
  exact ⟨plain, hplain, rfl, rfl, Document.isCommented_addHeaders _ plain.text⟩

/-- A header whose lines end in unlike ways, one of them with text behind it
that could be a definition. -/
def oddHeader : String :=
  "kept\u2028type Other\r\n\n# by hand\n\n"

theorem headers_only_comment_node :
    ∃ output,
      run { header := some oddHeader } nodeFilters ["made\rscalar Made"] [Schema.nodeDeclaration] =
        .ok output ∧ output.text.toList =
          "# kept\n# type Other\n#\n# by hand\n\n# made\n# scalar Made\n\n".toList ++
          nodeOutput.text.toList ∧
      Document.read? output.text.toList = Document.read? nodeOutput.text.toList := by
  obtain ⟨hadded, hruns⟩ := headers_only_comment
  obtain ⟨hrun, houtputs⟩ :=
    hruns { header := some oddHeader } nodeFilters ["made\rscalar Made"] [Schema.nodeDeclaration]
  rw [run_node] at hrun
  obtain ⟨plain, hplain, -, -, hcommented⟩ := houtputs _ hrun
  obtain rfl : nodeOutput = plain := Except.ok.inj (run_node.symm.trans hplain)
  refine ⟨_, hrun, ?_, hcommented.document⟩
  have hfront : Document.front (["made\rscalar Made"] ++ [oddHeader]) =
      "# kept\n# type Other\n#\n# by hand\n\n# made\n# scalar Made\n\n".toList := by decide +kernel
  rw [hcommented.split, ← hfront]
  rfl

end Pipeline

end SchemaViews
