import SchemaViews.Proofs.Document.Descriptions
import SchemaViews.Proofs.Schema.Tokens

/-!
# Reasons of deprecations

A text in quotes is a string that stands for this text and for no other one. The reason of a
deprecation is such a string, so it cannot end where its text would like it to: whatever the reason
is, the text around it gives the tokens that it gives without it, and what stands between them is
one directive with this reason.
-/

namespace SchemaViews

open SchemaViews.Document

/-- A text in quotes is a single string, also if it is empty. -/
theorem lexemes_stringLiteral (text : List Char) :
    lexemes (stringLiteral text) = some [.string text] := by
  by_cases hempty : text = []
  · subst hempty
    have hlexeme : lexeme? ('"' :: ['"']) = some (.string [], []) := by decide +kernel
    change lexemes ('"' :: ['"']) = _
    rw [lexemes_lexeme (by decide) (by decide) hlexeme, lexemes]
    rfl
  · exact (Lexes.string hempty).lexemes_eq

theorem constantDirectives_usage (label key : String) (content : List Char) {fuel : Nat}
    (levels : Nat) {later : List Lexeme} (hfuel : 1 < fuel)
    (hlater : later.head? ≠ some (.punctuator '@')) :
    Reader.constantDirectives fuel levels (usage label (some (key, .string content)) ++ later) =
      some ([⟨label, [(key, .string content)]⟩], later) := by
  obtain ⟨fuel, rfl⟩ : ∃ fewer, fuel = fewer + 2 := ⟨fuel - 2, by omega⟩
  rw [Reader.constantDirectives, Reader.directives,
    Reader.directivesOf_usage_single _ _ (Reader.value_string true (fuel + 2) levels content),
    Reader.directivesOf_of_ne hlater]
  rfl

/-- A text in quotes holds no line end and no quote that is not escaped, and stands for this
text and no other one, also for the reader of documents. A deprecation with a reason gives
the tokens of one directive wherever tokens may begin, with the reason as its only string,
and is read as that directive. -/
theorem literals_decode_to_their_text (text : String) :
    (∃ content, stringLiteral text.toList = '"' :: content ++ ['"'] ∧
      (∀ c ∈ content, isLineEnd c = false) ∧
        (∀ before after, content = before ++ '"' :: after → escapesNext before = true) ∧
        ∀ other, StandsFor content other ↔ other = text.toList) ∧
      lexemes (stringLiteral text.toList) = some [.string text.toList] ∧
      (text ≠ "" →
        (∀ before tokens, LexesWord before tokens → ∀ after,
          lexemes (before ++ (deprecation (some text)).toList ++ after) =
            (lexemes after).map
              (tokens ++ usage "deprecated" (some ("reason", .string text.toList)) ++ ·)) ∧
        ∀ fuel levels later, 1 < fuel → later.head? ≠ some (.punctuator '@') →
          Reader.constantDirectives fuel levels
            (usage "deprecated" (some ("reason", .string text.toList)) ++ later) =
              some ([⟨"deprecated", [("reason", .string text.toList)]⟩], later)) := by
  have hstands : StandsFor (text.toList.flatMap escapeChar) text.toList :=
    standsFor_flatMap text.toList
  refine ⟨⟨_, rfl, hstands.isLineEnd_eq, fun before after => hstands.quotes_escaped,
    fun other => ?_⟩,
    lexemes_stringLiteral text.toList, fun hne => ⟨fun before tokens hbefore => ?_, ?_⟩⟩
  · exact ⟨hstands.eq_of_standsFor, fun heq => heq ▸ hstands⟩
  · have hempty : ¬text.isEmpty = true := by simpa using hne
    have hends : EndsWord (deprecation (some text)).toList := by
      rw [deprecation_some hempty]
      exact ⟨' ', rfl, rfl⟩
    exact hbefore.append (lexes_deprecation hempty) hends
  · exact fun fuel levels later => constantDirectives_usage "deprecated" "reason" text.toList levels

/-- A reason that tries to close its string, its directive and its type,
and to define another type. -/
def intrudingReason : String :=
  "old\\\")\n\x7d type Evil \x7b all: Int \x7d # \t\u2028"

theorem literals_decode_to_their_text_intruding :
    intrudingReason ≠ "" ∧
      lexemes ("name".toList ++ (deprecation (some intrudingReason)).toList ++ ['\n', '\x7d']) =
        some (.name "name" ::
          (usage "deprecated" (some ("reason", .string intrudingReason.toList)) ++
            [.punctuator '\x7d'])) ∧
      Reader.constantDirectives 2 0
        (usage "deprecated" (some ("reason", .string intrudingReason.toList)) ++
          [.punctuator '\x7d']) =
        some ([⟨"deprecated", [("reason", .string intrudingReason.toList)]⟩],
          [.punctuator '\x7d']) := by
  have hne : intrudingReason ≠ "" := by decide
  have hname : LexesWord "name".toList [.name "name"] := lexesWord_of_isName (by decide)
  obtain ⟨-, -, hreason⟩ := literals_decode_to_their_text intrudingReason
  obtain ⟨hlexes, hread⟩ := hreason hne
  refine ⟨hne, ?_, hread 2 0 [.punctuator '\x7d'] (by decide) (by decide)⟩
  have hafter : lexemes ['\n', '\x7d'] = some [.punctuator '\x7d'] :=
    (lexes_newline.append (Lexes.punctuator (by decide))).lexemes_eq
  rw [hlexes _ _ hname, hafter]
  rfl

end SchemaViews
