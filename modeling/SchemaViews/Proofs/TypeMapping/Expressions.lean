import Mathlib.Data.List.Induction
import SchemaViews.Proofs.Directive.ListForms
import SchemaViews.Proofs.GoSource.LineParts
import SchemaViews.Proofs.Schema.Plain

/-!
# Type expressions

A declared type is a name under pointers, slices, arrays and maps. It is taken apart down to the
first part that is registered, a map or a name, and the target found there comes into one list for
each slice and array above it. So well-formed targets make well-formed types.
-/

namespace SchemaViews

open SchemaViews.Document SchemaViews.Text

namespace Text

theorem strip_eq_self {text : List Char} (h : ∀ c ∈ text, isBlank c = false) :
    strip text = text := by
  cases text with
  | nil => rfl
  | cons c text => rw [strip_cons_of_not_blank (h c List.mem_cons_self), stripEnd_eq_self h]

theorem afterLast_of_notMem {separator : Char} {text : List Char} (h : separator ∉ text) :
    afterLast separator text = text := by
  have hall : ∀ c ∈ text.reverse, (c != separator) = true := by
    intro c hc
    exact bne_iff_ne.2 (ne_of_mem_of_not_mem (List.mem_reverse.1 hc) h)
  rw [afterLast, List.takeWhile_eq_self_iff.2 hall, List.reverse_reverse]

theorem afterLast_append (front : List Char) {separator : Char} {text : List Char}
    (h : separator ∉ text) : afterLast separator (front ++ separator :: text) = text := by
  have hbody : ∀ c ∈ text.reverse, (c != separator) = true := fun c hc =>
    bne_iff_ne.2 (ne_of_mem_of_not_mem (List.mem_reverse.1 hc) h)
  have hstop : ∀ c ∈ ([separator] ++ front.reverse).head?, (c != separator) = false :=
    forall_mem_head?_cons (p := fun c => (c != separator) = false) (by simp) _
  calc
    afterLast separator (front ++ separator :: text) =
        ((text.reverse ++ ([separator] ++ front.reverse)).takeWhile (· != separator)).reverse := by
      rw [afterLast, List.reverse_append, List.reverse_cons, List.append_assoc]
    _ = text := by rw [takeWhile_append_of_stop hbody hstop, List.reverse_reverse]

end Text

namespace Naming

theorem isBlank_of_isNameChar {c : Char} (h : isNameChar c = true) : isBlank c = false := by
  rw [Bool.eq_false_iff]
  intro hblank
  have hall : ∀ code ∈ blankCodes, isNameChar (Char.ofNat code) = false := by decide +kernel
  have hother := hall c.toNat (toNat_mem_blankCodes hblank)
  rw [Char.ofNat_toNat, h] at hother
  cases hother

theorem notMem_of_isName {text : List Char} (h : isName text = true) {c : Char}
    (hc : isNameChar c = false) : c ∉ text := by
  intro hmem
  have hchar := Document.isNameChar_of_isName h hmem
  rw [hc] at hchar
  cases hchar

end Naming

namespace Document.TypeRef

/-- The grammar of types with nothing between their tokens. -/
inductive Spelled : TypeRef → List Char → Prop
  | named {name : List Char} (hname : Naming.isName name = true) :
      Spelled (.named (String.ofList name)) name
  | list {item : TypeRef} {text : List Char} (hitem : Spelled item text) :
      Spelled (.list item) ('[' :: text ++ [']'])
  | nonNull {type : TypeRef} {text : List Char} (htype : Spelled type text)
      (hnullable : type.IsNullable) : Spelled (.nonNull type) (text ++ ['!'])

variable {type : TypeRef} {text : List Char}

/-- A list begins with a bracket more than its item, which the item has something
behind its brackets to show. -/
theorem Spelled.takeWhile_append (h : Spelled type text) (rest : List Char) :
    (text ++ rest).takeWhile (· == '[') = List.replicate type.nesting '[' := by
  induction h generalizing rest with
  | @named name hname =>
      cases name with
      | nil => cases hname
      | cons c name =>
          rw [Naming.isName, Bool.and_eq_true] at hname
          rw [List.cons_append, List.takeWhile_cons_of_neg, nesting, List.replicate_zero]
          intro hbracket
          rw [beq_iff_eq.1 hbracket] at hname
          cases hname.1
  | list _ ih =>
      rw [List.append_assoc, List.cons_append, List.takeWhile_cons_of_pos (by rfl), ih, nesting,
        List.replicate_succ]
  | nonNull _ _ ih => rw [List.append_assoc, ih, nesting]

end Document.TypeRef

/-- A type that is written as the grammar of types has it, with nothing between its tokens. -/
def IsReference (type : String) : Prop :=
  ∃ reference : TypeRef, reference.Spelled type.toList

theorem bracketDepth_of_spelled {reference : TypeRef} {type : String}
    (h : reference.Spelled type.toList) : bracketDepth type = reference.nesting := by
  have hbrackets := h.takeWhile_append []
  rw [List.append_nil] at hbrackets
  rw [bracketDepth, hbrackets, List.length_replicate]

theorem isReference_of_isName {name : List Char} (h : Naming.isName name = true) :
    IsReference (String.ofList name) := by
  refine ⟨.named (String.ofList name), ?_⟩
  rw [String.toList_ofList]
  exact .named h

def listed (target : String) : Nat → String
  | 0 => target
  | lists + 1 => String.ofList ('[' :: (listed target lists).toList ++ [']'])

theorem spelled_listed {reference : TypeRef} {target : String} (h : reference.Spelled target.toList)
    (lists : Nat) :
    ∃ type : TypeRef, type.Spelled (listed target lists).toList ∧
      type.nesting = lists + reference.nesting := by
  induction lists with
  | zero => exact ⟨reference, h, (Nat.zero_add _).symm⟩
  | succ lists ih =>
      obtain ⟨type, htype, hnesting⟩ := ih
      refine ⟨.list type, ?_, ?_⟩
      · rw [listed, String.toList_ofList]
        exact .list htype
      · rw [TypeRef.nesting, hnesting]
        omega

/-- A name in the declaration language, of ASCII letters, digits and underscores. -/
structure Identifier where
  text : List Char
  isName : Naming.isName text = true

/-- The length of an array, written as a number or a name. -/
structure Extent where
  text : List Char
  nonempty : text ≠ []
  isNameChar : ∀ c ∈ text, Naming.isNameChar c = true

inductive TypeExpression where
  | name (identifier : Identifier)
  | qualified (package identifier : Identifier)
  | pointer (item : TypeExpression)
  | slice (item : TypeExpression)
  | array (extent : Extent) (item : TypeExpression)
  | map (key item : TypeExpression)

namespace TypeExpression

def text : TypeExpression → List Char
  | name identifier => identifier.text
  | qualified package identifier => package.text ++ '.' :: identifier.text
  | pointer item => '*' :: item.text
  | slice item => '[' :: ']' :: item.text
  | array extent item => '[' :: (extent.text ++ ']' :: item.text)
  | map key item => ['m', 'a', 'p', '['] ++ (key.text ++ ']' :: item.text)

def written (type : TypeExpression) : String :=
  String.ofList type.text

/-- The slices and arrays on the way down to the first part that is registered, a map or a name,
and the target found there. -/
def reach (mapping : TypeMapping) (type : TypeExpression) : Nat × String :=
  match mapping.get? type.written with
  | some target => (0, target)
  | none =>
    match type with
    | name identifier | qualified _ identifier => (0, String.ofList identifier.text)
    | map _ _ => (0, (mapping.get? "any").getD "Map")
    | pointer item => item.reach mapping
    | slice item | array _ item => ((item.reach mapping).1 + 1, (item.reach mapping).2)

end TypeExpression

namespace TypeMapping

variable {mapping : TypeMapping} {text rest : List Char}

theorem mapChars_of_registered {target : String}
    (h : mapping.get? (String.ofList (strip text)) = some target) :
    mapping.mapChars text = target.toList := by
  rw [mapChars, h]

theorem mapChars_pointer (hnone : mapping.get? (String.ofList (strip text)) = none)
    (h : strip text = '*' :: rest) : mapping.mapChars text = mapping.mapChars rest := by
  rw [mapChars, hnone]
  simp only
  split
  · rename_i heq
    cases h.symm.trans heq
    rfl
  · rename_i heq
    cases h.symm.trans heq
  · rename_i hpointer _
    exact absurd h (hpointer rest)

theorem mapChars_list {extent item : List Char}
    (hnone : mapping.get? (String.ofList (strip text)) = none)
    (h : strip text = '[' :: (extent ++ ']' :: item)) (hextent : ']' ∉ extent) :
    mapping.mapChars text = '[' :: mapping.mapChars item ++ [']'] := by
  have hafter : afterBracket (extent ++ ']' :: item) = item := by
    have hstop : (extent ++ ']' :: item).dropWhile (· != ']') = ']' :: item := by
      apply dropWhile_append_of_stop
      · intro c hc
        exact bne_iff_ne.2 (ne_of_mem_of_not_mem hc hextent)
      · exact forall_mem_head?_cons (p := fun c => (c != ']') = false) rfl item
    rw [afterBracket, hstop, List.tail_cons]
  rw [mapChars, hnone]
  simp only
  split
  · rename_i heq
    cases h.symm.trans heq
  · rename_i heq
    cases h.symm.trans heq
    rw [if_pos (by simp), hafter]
  · rename_i hlist
    exact absurd h (hlist _)

theorem mapChars_other (hnone : mapping.get? (String.ofList (strip text)) = none)
    (hpointer : (strip text).head? ≠ some '*')
    (hlist : (strip text).head? ≠ some '[') : mapping.mapChars text =
      if isMap (strip text) then ((mapping.get? "any").getD "Map").toList
        else afterLast '.' (strip text) := by
  rw [mapChars, hnone]
  simp only
  split
  · rename_i heq
    rw [heq] at hpointer
    exact absurd rfl hpointer
  · rename_i heq
    rw [heq] at hlist
    exact absurd rfl hlist
  · rfl

theorem isMap_of_notMem (h : '[' ∉ text) : isMap text = false := by
  unfold isMap
  cases hmap : dropStart? ['m', 'a', 'p', '['] text with
  | none => rfl
  | some rest =>
      rw [dropStart?_eq_some_iff.1 hmap] at h
      exact absurd (by simp) h

theorem isMap_append (key item : List Char) :
    isMap (['m', 'a', 'p', '['] ++ (key ++ ']' :: item)) = true := by
  rw [isMap, dropStart?_eq_some_iff.2 rfl]
  simp

end TypeMapping

namespace TypeExpression

variable {mapping : TypeMapping}

theorem text_chars (type : TypeExpression) : ∀ c ∈ type.text, isBlank c = false := by
  have hname {text : List Char} (h : ∀ c ∈ text, Naming.isNameChar c = true) :
      ∀ c ∈ text, isBlank c = false :=
    fun c hc => Naming.isBlank_of_isNameChar (h c hc)
  have hidentifier (identifier : Identifier) : ∀ c ∈ identifier.text, isBlank c = false :=
    hname fun c hc => isNameChar_of_isName identifier.isName hc
  induction type with
  | name identifier => exact hidentifier identifier
  | qualified package identifier =>
      simp only [text, List.forall_mem_append, List.forall_mem_cons]
      exact ⟨hidentifier package, rfl, hidentifier identifier⟩
  | pointer item ih =>
      simp only [text, List.forall_mem_cons]
      exact ⟨rfl, ih⟩
  | slice item ih =>
      simp only [text, List.forall_mem_cons]
      exact ⟨rfl, rfl, ih⟩
  | array extent item ih =>
      simp only [text, List.forall_mem_append, List.forall_mem_cons]
      exact ⟨rfl, hname extent.isNameChar, rfl, ih⟩
  | map key item ihkey ih =>
      simp only [text, List.forall_mem_append, List.forall_mem_cons]
      exact ⟨⟨rfl, rfl, rfl, rfl, List.forall_mem_nil _⟩, ihkey, rfl, ih⟩

theorem strip_text (type : TypeExpression) : strip type.text = type.text :=
  strip_eq_self type.text_chars

theorem get?_strip_text (type : TypeExpression) :
    mapping.get? (String.ofList (strip type.text)) = mapping.get? type.written := by
  rw [strip_text, written]

theorem mapChars_plain {type : TypeExpression} (hnone : mapping.get? type.written = none)
    (hchars : ∀ c ∈ type.text, Naming.isNameChar c = true ∨ c = '.') :
    mapping.mapChars type.text = afterLast '.' type.text := by
  have hnot {c : Char} (hc : Naming.isNameChar c = false) (hpoint : c ≠ '.') : c ∉ type.text := by
    intro hmem
    rcases hchars c hmem with hchar | heq
    · rw [hc] at hchar
      cases hchar
    · exact hpoint heq
  have hhead {c : Char} (h : c ∉ type.text) : (strip type.text).head? ≠ some c := by
    rw [strip_text]
    exact fun hc => h (List.mem_of_head? hc)
  have hpointer : '*' ∉ type.text := hnot rfl (by decide)
  have hbracket : '[' ∉ type.text := hnot rfl (by decide)
  rw [TypeMapping.mapChars_other ((get?_strip_text type).trans hnone) (hhead hpointer)
    (hhead hbracket), strip_text, TypeMapping.isMap_of_notMem hbracket]
  rfl

/-- A type comes to the target that it reaches, inside the lists on the way there. -/
theorem mapChars_text (type : TypeExpression) :
    mapping.mapChars type.text = (listed (type.reach mapping).2 (type.reach mapping).1).toList := by
  fun_induction reach mapping type with
  | case1 type target hget =>
      rw [TypeMapping.mapChars_of_registered ((get?_strip_text type).trans hget), listed]
  | case2 identifier hnone =>
      rw [mapChars_plain hnone fun c hc => .inl (isNameChar_of_isName identifier.isName hc), text,
        afterLast_of_notMem (Naming.notMem_of_isName identifier.isName rfl), listed,
        String.toList_ofList]
  | case3 package identifier hnone =>
      have hchars : ∀ c ∈ (qualified package identifier).text, Naming.isNameChar c = true ∨
          c = '.' := by
        intro c hc
        rw [text, List.mem_append, List.mem_cons] at hc
        rcases hc with hc | hc | hc
        · exact .inl (isNameChar_of_isName package.isName hc)
        · exact .inr hc
        · exact .inl (isNameChar_of_isName identifier.isName hc)
      rw [mapChars_plain hnone hchars, text,
        afterLast_append _ (Naming.notMem_of_isName identifier.isName rfl), listed,
        String.toList_ofList]
  | case4 key item hnone =>
      have hhead {c : Char} (hc : c ≠ 'm') : (strip (map key item).text).head? ≠ some c := by
        rw [strip_text]
        exact fun h => hc (Option.some.inj h).symm
      rw [TypeMapping.mapChars_other ((get?_strip_text _).trans hnone) (hhead (by decide))
        (hhead (by decide)), strip_text, text, TypeMapping.isMap_append, if_pos rfl, listed]
  | case5 item hnone ih =>
      rw [TypeMapping.mapChars_pointer ((get?_strip_text _).trans hnone) (strip_text _), ih]
  | case6 item hnone ih =>
      have hstrip : strip (slice item).text = '[' :: ([] ++ ']' :: item.text) := strip_text _
      rw [TypeMapping.mapChars_list ((get?_strip_text _).trans hnone) hstrip List.not_mem_nil, ih,
        listed, String.toList_ofList]
  | case7 extent item hnone ih =>
      have hextent : ']' ∉ extent.text := fun hmem => by cases extent.isNameChar _ hmem
      rw [TypeMapping.mapChars_list ((get?_strip_text _).trans hnone) (strip_text _) hextent, ih,
        listed, String.toList_ofList]

theorem mapType_written (type : TypeExpression) :
    mapping.mapType type.written = listed (type.reach mapping).2 (type.reach mapping).1 := by
  rw [TypeMapping.mapType, written, String.toList_ofList, mapChars_text, String.ofList_toList]

theorem isReference_reach (htargets : ∀ entry ∈ mapping.entries, IsReference entry.2)
    (type : TypeExpression) : IsReference (type.reach mapping).2 := by
  have hfound {declared target : String} (h : mapping.get? declared = some target) :
      IsReference target := by
    obtain ⟨entry, hentry, rfl⟩ := Option.map_eq_some_iff.1 h
    exact htargets entry (List.mem_of_find?_eq_some hentry)
  fun_induction reach mapping type with
  | case1 type target hget => exact hfound hget
  | case2 identifier | case3 _ identifier => exact isReference_of_isName identifier.isName
  | case4 =>
      cases hany : mapping.get? "any" with
      | some target => exact hfound hany
      | none =>
          have hmap : Naming.isName "Map".toList = true := by decide
          exact isReference_of_isName hmap
  | case5 item hnone ih | case6 item hnone ih | case7 _ item hnone ih => exact ih

end TypeExpression

namespace TypeMapping

variable {mapping : TypeMapping} {declared target : String} {entry : String × String}

theorem mem_register (h : entry ∈ (mapping.register declared target).entries) :
    entry = (declared, target) ∨ entry ∈ mapping.entries := by
  rw [register] at h
  generalize mapping.entries = entries at h ⊢
  induction entries with
  | nil => exact .inl (List.mem_singleton.1 h)
  | cons first rest ih =>
      rw [register.put] at h
      split at h
      · rcases List.mem_cons.1 h with heq | hrest
        · exact .inl heq
        · exact .inr (List.mem_cons_of_mem _ hrest)
      · rcases List.mem_cons.1 h with heq | hrest
        · exact .inr (heq ▸ List.mem_cons_self)
        · exact (ih hrest).imp_right (List.mem_cons_of_mem _)

theorem mem_withOverrides {overrides : List (String × String)}
    (h : entry ∈ (withOverrides overrides).entries) : entry ∈ overrides ∨ entry ∈ defaults := by
  induction overrides using List.reverseRecOn with
  | nil => exact .inr h
  | append_singleton overrides last ih =>
      rw [withOverrides, List.foldl_concat] at h
      rcases mem_register h with rfl | hearlier
      · exact .inl (List.mem_append_right _ (List.mem_singleton.2 rfl))
      · exact (ih hearlier).imp_left (List.mem_append_left _)

theorem isReference_of_mem_defaults (h : entry ∈ defaults) : IsReference entry.2 := by
  have hall : ∀ entry ∈ defaults, Naming.isName entry.2.toList = true := by decide
  rw [← String.ofList_toList (s := entry.2)]
  exact isReference_of_isName (hall entry h)

/-- With well-formed targets every type expression has a well-formed type, as deep in lists as the
slices and arrays down to the part that decides and the target found there make it. -/
theorem mapType_isReference {overrides : List (String × String)}
    (htargets : ∀ entry ∈ overrides, IsReference entry.2) (type : TypeExpression) :
    IsReference ((withOverrides overrides).mapType type.written) ∧
      bracketDepth ((withOverrides overrides).mapType type.written) =
        (type.reach (withOverrides overrides)).1 +
        bracketDepth (type.reach (withOverrides overrides)).2 := by
  have hentries : ∀ entry ∈ (withOverrides overrides).entries, IsReference entry.2 := by
    intro entry hentry
    rcases mem_withOverrides hentry with hoverride | hdefault
    · exact htargets entry hoverride
    · exact isReference_of_mem_defaults hdefault
  obtain ⟨reference, hreference⟩ := type.isReference_reach hentries
  obtain ⟨mapped, hmapped, hnesting⟩ :=
    spelled_listed hreference (type.reach (withOverrides overrides)).1
  rw [type.mapType_written, bracketDepth_of_spelled hmapped, bracketDepth_of_spelled hreference,
    hnesting]
  exact ⟨⟨mapped, hmapped⟩, rfl⟩

def moneyOverrides : List (String × String) :=
  [("money.Amount", "[Money!]!"), ("[]Digit", "Number")]

def amountsType : TypeExpression :=
  .slice (.pointer (.array ⟨['3'], by decide, List.all_eq_true.1 rfl⟩
    (.qualified ⟨"money".toList, rfl⟩ ⟨"Amount".toList, rfl⟩)))

theorem mapType_isReference_amounts : (∀ entry ∈ moneyOverrides, IsReference entry.2) ∧
    (withOverrides moneyOverrides).mapType "[]*[3]money.Amount" = "[[[Money!]!]]" ∧
    IsReference "[[[Money!]!]]" ∧ bracketDepth "[[[Money!]!]]" = 2 + bracketDepth "[Money!]!" := by
  have htargets : ∀ entry ∈ moneyOverrides, IsReference entry.2 := by
    intro entry hentry
    rcases List.mem_pair.1 hentry with rfl | rfl
    · have hmoney : TypeRef.Spelled (.named "Money") "Money".toList := .named (by decide)
      exact ⟨.nonNull (.list (.nonNull (.named "Money"))),
        (hmoney.nonNull trivial).list.nonNull trivial⟩
    · have hnumber : Naming.isName "Number".toList = true := by decide
      exact isReference_of_isName hnumber
  have hwritten : amountsType.written = "[]*[3]money.Amount" := by decide
  have hreach : amountsType.reach (withOverrides moneyOverrides) = (2, "[Money!]!") := by decide
  have hmapped : (withOverrides moneyOverrides).mapType "[]*[3]money.Amount" = "[[[Money!]!]]" := by
    rw [← hwritten, amountsType.mapType_written, hreach]
    decide
  have hreference := mapType_isReference htargets amountsType
  rw [hreach, hwritten, hmapped] at hreference
  exact ⟨htargets, hmapped, hreference⟩

end TypeMapping

end SchemaViews
