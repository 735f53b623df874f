import DrumMachine.Proofs.Yaml.Forms
import DrumMachine.Proofs.Yaml.Literals
import DrumMachine.Proofs.Yaml.PlainScalars
import DrumMachine.Proofs.Yaml.Quotes
import DrumMachine.Proofs.Yaml.Steps

/-! # Tokens that are read back

Which token starts somewhere is settled by its first characters: a mark is known at once, and what
can stand without quotes is taken for no mark (`Scanner.token_plain`). The marks of keys and values
start a mapping where there is none yet (`Scanner.token_key`, `Scanner.token_value`); at the mark of
a value behind a bare key, the start of that mapping is put in before the key
(`Scanner.token_value_of_place`). A text in lines of its own is one scalar, and the next step leads
to the line behind it (`Scanner.step_text_line`). -/

namespace DrumMachine.Yaml

namespace Scanner

variable {rest : Layout} {tokens : List Token} {token : Token}
  {margin line column indent start : Nat} {outer : List Nat} {place : Option KeyPlace}
  {keyAllowed : Bool} {text cs : List Char}

/-! ## Starting a mapping -/

/-- The tokens with the start of a mapping, if there is none at this column yet. -/
def opening (indent margin : Nat) (tokens : List Token) : List Token :=
  if margin ≤ indent then .mappingStart :: tokens else tokens

/-- The margins around a mapping at this column. -/
def around (indent margin : Nat) (outer : List Nat) : List Nat :=
  if margin ≤ indent then margin :: outer else outer

/-- A mapping starts where none has this column as its own. -/
theorem opening_of_le (h : margin ≤ indent) :
    opening indent margin tokens = .mappingStart :: tokens :=
  if_pos h

/-- A new mapping keeps the margin that there was before it. -/
theorem around_of_le (h : margin ≤ indent) : around indent margin outer = margin :: outer :=
  if_pos h

/-- No mapping starts within one at its column. -/
@[simp] theorem opening_succ : opening indent (indent + 1) tokens = tokens :=
  if_neg (Nat.not_succ_le_self indent)

/-- The margins stay the same within a mapping. -/
@[simp] theorem around_succ : around indent (indent + 1) outer = outer :=
  if_neg (Nat.not_succ_le_self indent)

/-- A token is put in before the ones that came later. -/
theorem insertAt_inBlock (front : List Token) :
    (inBlock rest (front ++ tokens) margin outer place keyAllowed).insertAt tokens.length token =
      inBlock rest (front ++ token :: tokens) margin outer place keyAllowed := by
  have hinsert : (front ++ tokens).insertIdx front.length token = front ++ token :: tokens := by
    induction front with
    | nil => rfl
    | cons first front ih =>
      rw [List.cons_append, List.length_cons, List.insertIdx_succ_cons, ih, List.cons_append]
  simp [insertAt, inBlock, hinsert, Nat.add_assoc]

/-- **A mapping starts**, unless there is one at this column already. -/
theorem openBlock_inBlock (front : List Token) (hmargin : margin ≤ indent + 1) :
    (inBlock rest (front ++ tokens) margin outer place keyAllowed).openBlock indent tokens.length
      .mappingStart =
      inBlock rest (front ++ opening indent margin tokens) (indent + 1) (around indent margin outer)
        place keyAllowed := by
  rw [openBlock]
  by_cases h : margin ≤ indent
  · rw [opening_of_le h, around_of_le h, if_pos (by simp [inBlock, inFlow, h])]
    exact insertAt_inBlock front
  · obtain rfl : margin = indent + 1 := by omega
    rw [opening_succ, around_succ, if_neg (by simp [inBlock, inFlow])]

/-! ## Marks -/

section Dispatch

variable {s : Scanner}

/-- A mark is known by its character, and whether a separator follows it. -/
theorem token_of_colon (h : s.rest.peek 0 = ':') (hsep : isSeparator (s.rest.peek 1)) :
    s.token = s.value := by
  simp [token, Layout.isMark, h, hsep]

/-- A question mark and a separator are the mark of a key. -/
theorem token_of_question (h : s.rest.peek 0 = '?') (hsep : isSeparator (s.rest.peek 1)) :
    s.token = s.key := by
  simp [token, Layout.isMark, h, hsep]

/-- A single quote starts a text in single quotes. -/
theorem token_of_quote (h : s.rest.peek 0 = '\'') :
    s.token = s.quotedScalar .singleQuoted Quoted.single? := by
  simp [token, Layout.isMark, h]

/-- A double quote starts a text in double quotes. -/
theorem token_of_doubleQuote (h : s.rest.peek 0 = '\x22') :
    s.token = s.quotedScalar .doubleQuoted Quoted.double? := by
  simp [token, Layout.isMark, h]

/-- A bar starts a text in lines of its own. -/
theorem token_of_bar (h : s.rest.peek 0 = '|') (hflow : s.inFlow = false) :
    s.token = s.blockScalar .literal := by
  simp [token, Layout.isMark, h, hflow]

/-- An opening brace starts a mapping. -/
theorem token_of_brace (h : s.rest.peek 0 = '\x7b') : s.token = s.flowStart .flowMappingStart := by
  simp [token, Layout.isMark, h]

/-- A closing brace ends a mapping. -/
theorem token_of_endBrace (h : s.rest.peek 0 = '\x7d') : s.token = s.flowEnd .flowMappingEnd := by
  simp [token, Layout.isMark, h]

end Dispatch

/-- One character further on the same line. -/
theorem drop_one_place {c : Char} (h : isBreak c = false) :
    (Layout.place line column (c :: cs)).drop 1 = Layout.place line (column + 1) cs := by
  rw [Layout.place, h]
  rfl

/-- The mark of a value shows that there was a key before it. -/
theorem token_value_of_place {required : Bool} {keyLine : Nat} (hmargin : margin ≤ indent + 1)
    (hcs : isSeparator (cs.headD endMark)) :
    (inBlock (.place line column (':' :: cs)) (token :: tokens) margin outer
      (some ⟨required, tokens.length, keyLine, indent⟩) false).token =
      some (inBlock (.place line (column + 1) cs)
        (.value :: token :: .key :: opening indent margin tokens) (indent + 1)
        (around indent margin outer) none false) := by
  generalize hrest : Layout.place line column (':' :: cs) = rest
  have hcolon : rest.peek 0 = ':' := hrest ▸ Layout.peek_zero_place
  have hsep : isSeparator (rest.peek 1) := by rwa [← hrest, Layout.peek_one_place]
  have hdrop : rest.drop 1 = Layout.place line (column + 1) cs := hrest ▸ drop_one_place (by decide)
  generalize hkey : KeyPlace.mk required tokens.length keyLine indent = key
  -- the mark of the key and the start of the mapping go before the key
  have hopened : ((inBlock rest (token :: tokens) margin outer (some key) false).insertAt
      tokens.length .key).openBlock indent tokens.length .mappingStart =
      inBlock rest (token :: .key :: opening indent margin tokens) (indent + 1)
        (around indent margin outer) (some key) false :=
    (congrArg (openBlock indent tokens.length .mappingStart)
      (insertAt_inBlock [token])).trans (openBlock_inBlock [token, .key] hmargin)
  rw [token_of_colon hcolon hsep, ← hdrop]
  subst hkey
  exact congrArg (fun s : Scanner =>
    some ((({ s with place := none }.allowKey false).emit .value).skip 1)) hopened

/-- Where a key may start, a mapping starts before a mark. -/
theorem openHere_inBlock (hmargin : margin ≤ indent + 1) :
    (inBlock (.place line indent cs) tokens margin outer place true).openHere .mappingStart =
      some (inBlock (.place line indent cs) (opening indent margin tokens) (indent + 1)
        (around indent margin outer) place true) := by
  have hopen := @openBlock_inBlock (.place line indent cs) tokens margin indent outer place true []
    hmargin
  rw [openHere, rest_inBlock, Layout.head_place]
  exact congrArg some hopen

/-- The mark of a value that stands at the start of a line. -/
theorem token_value (hcs : isSeparator (cs.headD endMark)) :
    (inBlock (.place line indent (':' :: cs)) tokens (indent + 1) outer none true).token =
      some (inBlock (.place line (indent + 1) cs) (.value :: tokens) (indent + 1) outer none
        true) := by
  have hopen := @openHere_inBlock tokens (indent + 1) line indent outer none (':' :: cs)
    (Nat.le_refl _)
  rw [opening_succ, around_succ] at hopen
  have hvalue :
      (inBlock (.place line indent (':' :: cs)) tokens (indent + 1) outer none true).value =
      some (inBlock ((Layout.place line indent (':' :: cs)).drop 1) (.value :: tokens) (indent + 1)
        outer none true) :=
    congrArg (fun s : Option Scanner => s.bind fun s =>
      some (((s.allowKey (!s.inFlow)).emit .value).skip 1)) hopen
  rw [token_of_colon Layout.peek_zero_place (Layout.peek_one_place.symm ▸ hcs), hvalue,
    drop_one_place (by decide)]

/-- The mark of a key. -/
theorem token_key (hmargin : margin ≤ indent + 1) (hcs : isSeparator (cs.headD endMark)) :
    (inBlock (.place line indent ('?' :: cs)) tokens margin outer none true).token =
      some (inBlock (.place line (indent + 1) cs) (.key :: opening indent margin tokens)
        (indent + 1) (around indent margin outer) none true) := by
  have hopen := @openHere_inBlock tokens margin line indent outer none ('?' :: cs) hmargin
  have hkey : (inBlock (.place line indent ('?' :: cs)) tokens margin outer none true).key =
      some (inBlock ((Layout.place line indent ('?' :: cs)).drop 1)
        (.key :: opening indent margin tokens) (indent + 1) (around indent margin outer) none
          true) := by
    rw [key, hopen]
    rfl
  rw [token_of_question Layout.peek_zero_place (Layout.peek_one_place.symm ▸ hcs), hkey,
    drop_one_place (by decide)]

/-! ## Scalars -/

/-- The place that is noted for a key without a mark. -/
def savedPlace (keyAllowed : Bool) (margin number line column : Nat) : Option KeyPlace :=
  if keyAllowed then some ⟨margin == column + 1, number, line, column⟩ else none

/-- Where a key may come, its place is saved. -/
theorem savePlace_inBlock :
    (inBlock (.place line column cs) tokens margin outer none keyAllowed).savePlace =
      some (inBlock (.place line column cs) tokens margin outer
        (savedPlace keyAllowed margin tokens.length line column) keyAllowed) := by
  cases keyAllowed with
  | false => rfl
  | true =>
    have hsaved (rest : Layout) : (inBlock rest tokens margin outer none true).savePlace =
        some (inBlock rest tokens margin outer
          (savedPlace true margin tokens.length rest.head.line rest.head.column) true) := rfl
    rw [hsaved, Layout.head_place]

/-- A quoted text becomes a token, which may be a key. -/
theorem quotedScalar_inBlock {read? : Layout → Option (List Char × Layout)} (style : Style)
    (h : read? (Layout.place line column cs).tail = some (text, rest)) :
    (inBlock (.place line column cs) tokens margin outer none keyAllowed).quotedScalar style read? =
      some (inBlock rest (.scalar style (String.ofList text) :: tokens) margin outer
        (savedPlace keyAllowed margin tokens.length line column) false) := by
  rw [quotedScalar, savePlace_inBlock, Option.bind_eq_bind, Option.bind_some, rest_inBlock, h]
  rfl

/-- A text without quotes becomes a token, which may be a key. -/
theorem plainScalar_inBlock {broken : Bool}
    (h : Plain.read? ⟨false, margin⟩ (.place line column cs) = some ⟨text, broken, rest⟩) :
    (inBlock (.place line column cs) tokens margin outer none keyAllowed).plainScalar =
      some (inBlock rest (.scalar .plain (String.ofList text) :: tokens) margin outer
        (savedPlace keyAllowed margin tokens.length line column) broken) := by
  rw [plainScalar, savePlace_inBlock, Option.bind_eq_bind, Option.bind_some]
  simp only [inBlock, inFlow] at h ⊢
  simp only [List.isEmpty_nil, Bool.not_true, h]
  rfl

/-- A text in lines of its own becomes a token, which can be no key without its mark. -/
theorem blockScalar_inBlock
    (h : Block.read? false margin (Layout.place line column cs).tail = some (text, rest)) :
    (inBlock (.place line column cs) tokens margin outer none keyAllowed).blockScalar .literal =
      some (inBlock rest (.scalar .literal (String.ofList text) :: tokens) margin outer none
        true) := by
  have hdrop : (inBlock (.place line column cs) tokens margin outer none keyAllowed).dropPlace =
      some (inBlock (.place line column cs) tokens margin outer none keyAllowed) := rfl
  rw [blockScalar, hdrop, Option.bind_eq_bind, Option.bind_some]
  simp only [inBlock] at h ⊢
  have hfolded : (Style.literal == Style.folded) = false := by decide
  simp only [hfolded, h]
  rfl

/-- A text that does not start with a document mark does not become one by what follows it. -/
theorem isMark_append {c : Char} (h : text ≠ []) (hmark : [c, c, c].isPrefixOf text = false)
    (hcs : cs.headD endMark ≠ c) : (Layout.place line column (text ++ cs)).isMark c = false := by
  rw [Layout.isMark, Layout.peek_place, Layout.peek_place, Layout.peek_place]
  -- a text of one or two characters would need what follows to become a mark
  obtain _ | ⟨a, _ | ⟨b, _ | ⟨d, text⟩⟩⟩ := text
  · exact absurd rfl h
  · have hnext : ([a] ++ cs).getD 1 endMark = cs.headD endMark := by cases cs <;> rfl
    rw [hnext, beq_eq_false_iff_ne.mpr hcs, Bool.and_false, Bool.false_and, Bool.false_and]
  · have hnext : ([a, b] ++ cs).getD 2 endMark = cs.headD endMark := by cases cs <;> rfl
    rw [hnext, beq_eq_false_iff_ne.mpr hcs, Bool.and_false, Bool.false_and]
  · simp only [List.isPrefixOf, Bool.and_true] at hmark
    simp only [List.cons_append, List.getD_cons_zero, List.getD_cons_succ]
    grind

/-- **A text that can stand without quotes starts a plain scalar.** -/
theorem token_plain {s : Scanner} (hrest : s.rest = .place line column (text ++ cs))
    (hflow : s.inFlow = false) (hallows : Writing.allowsPlain text) (h : text ≠ [])
    (hdash : cs.headD endMark ≠ '-') (hpoint : cs.headD endMark ≠ '.') :
    s.token = s.plainScalar := by
  obtain ⟨-, -, -, hmarked, -⟩ := Writing.of_allowsPlain hallows
  have hstarts : Plain.starts ⟨false, s.margin⟩ s.rest := hrest ▸ Plain.starts_written hallows h
  obtain ⟨c, more, rfl⟩ := List.exists_cons_of_ne_nil h
  rw [Writing.startsMarked, Bool.or_eq_false_iff, Bool.or_eq_false_iff, Bool.or_eq_false_iff]
    at hmarked
  obtain ⟨⟨⟨hindicator, -⟩, hdashes⟩, hpoints⟩ := hmarked
  have hc : s.rest.peek 0 = c := by rw [hrest, Layout.peek_zero_place]; rfl
  have hmarkDash : s.rest.isMark '-' = false := by rw [hrest, isMark_append h hdashes hdash]
  have hmarkPoint : s.rest.isMark '.' = false := by rw [hrest, isMark_append h hpoints hpoint]
  have hmarkless (d : Char) (hd : d = '?' ∨ d = '-' ∨ d = ':') :
      (c == d && isSeparator (s.rest.peek 1)) = false := by
    by_cases hcd : c = d
    · rw [hrest, List.cons_append, Layout.peek_one_place,
        Writing.not_isSeparator_after_mark hallows (hcd ▸ hd) cs, Bool.and_false]
    · rw [beq_eq_false_iff_ne.mpr hcd, Bool.false_and]
  -- none of the marks that are looked for is there
  simp only [isIndicator, isFlowMark, Bool.or_eq_false_iff] at hindicator
  simp only [token, hc, hmarkDash, hmarkPoint, hflow, hindicator, hstarts, hmarkless '-' (by simp),
    hmarkless '?' (by simp), hmarkless ':' (by simp), Bool.false_and, Bool.false_or,
    Bool.false_eq_true, if_false, if_true]

/-! ## Texts in lines of their own -/

/-- **A step to the next line**: what was read could not be a key. -/
theorem step_line {written : List Char} {line' : Nat} {broken : Bool} {place : Option KeyPlace}
    (hfirst : written.headD endMark ≠ endMark) (hlength : cs.length < written.length)
    (htoken :
      (inBlock (.place line column written) tokens (indent + 1) outer none keyAllowed).token =
      some (inBlock rest (token :: tokens) (indent + 1) outer place broken))
    (hplace : ∀ p ∈ place, p.required = false ∧ p.line < line')
    (hskipped : skipped false false broken rest = (.place line' start cs, true)) :
    Step (inBlock (.place line column written) tokens (indent + 1) outer none keyAllowed)
      (atLine (.place line' start cs) (token :: tokens) (indent + 1) outer) := by
  refine ⟨?_, ?_, ?_⟩
  · rwa [rest_inBlock, Layout.peek_zero_place]
  · rw [htoken, Option.bind_some, approach_line hskipped hplace]
  · rw [rest_atLine, rest_inBlock, Layout.length_place, Layout.length_place]
    exact Nat.succ_lt_succ hlength

/-- A place that is saved right of the margin is that of a key which need not come. -/
theorem savedPlace_not_required {number : Nat} {place : KeyPlace} (hcolumn : indent < column)
    (h : place ∈ savedPlace keyAllowed (indent + 1) number line column) :
    place.required = false ∧ place.line = line ∧ place.column = column := by
  cases keyAllowed with
  | false => cases h
  | true =>
    obtain rfl : _ = place := Option.some.inj h
    exact ⟨beq_eq_false_iff_ne.mpr (by omega), rfl, rfl⟩

/-- **A plain scalar in a line of its own is read back.** -/
theorem step_plain_line {written : List Char} (hstart : start ≤ indent) (hcolumn : indent < column)
    (hallows : Writing.allowsPlain written) (h : written ≠ []) (hcs : StartsToken cs) :
    Step (inBlock (.place line column (written ++ '\n' :: (spaces start ++ cs))) tokens
        (indent + 1) outer none keyAllowed)
      (atLine (.place (line + 1) start cs) (.scalar .plain (String.ofList written) :: tokens)
        (indent + 1) outer) := by
  have hread := @Plain.read?_line (indent + 1) line column cs written start hallows (by omega) hcs
    (by omega)
  rw [List.append_assoc, List.cons_append] at hread
  have htoken := (token_plain (s := inBlock (.place line column
    (written ++ '\n' :: (spaces start ++ cs))) tokens (indent + 1) outer none keyAllowed) rfl rfl
    hallows h (show '\n' ≠ '-' by decide) (show '\n' ≠ '.' by decide)).trans
    (plainScalar_inBlock hread)
  refine step_line ?_ ?_ htoken (fun p hp => ?_) (skipped_token hcs)
  · exact (Writing.startsToken_plain hallows h).2
  · simp only [List.length_append, List.length_cons]
    omega
  · obtain ⟨hrequired, hline, -⟩ := savedPlace_not_required hcolumn hp
    exact ⟨hrequired, by omega⟩

/-- **A quoted scalar in lines of its own is read back**, if what is in the quotes is. -/
theorem step_quoted_line (tokens : List Token) (outer : List Nat) (keyAllowed : Bool) {quote : Char}
    {style : Style} {read? : Layout → Option (List Char × Layout)} {written : List Char}
    {line' column' : Nat}
    (hquote : quote ≠ endMark ∧ isBreak quote = false)
    (hdispatch : ∀ s : Scanner, s.rest.peek 0 = quote → s.token = s.quotedScalar style read?)
    (hcolumn : indent < column) (hcs : StartsToken cs)
    (hread : read? (.place line (column + 1) (written ++ '\n' :: (spaces start ++ cs))) =
      some (text, .place line' column' ('\n' :: (spaces start ++ cs)))) (hline : line ≤ line') :
    Step (inBlock (.place line column (quote :: (written ++ '\n' :: (spaces start ++ cs)))) tokens
        (indent + 1) outer none keyAllowed)
      (atLine (.place (line' + 1) start cs) (.scalar style (String.ofList text) :: tokens)
        (indent + 1) outer) := by
  have htail :
      (Layout.place line column (quote :: (written ++ '\n' :: (spaces start ++ cs)))).tail =
      Layout.place line (column + 1) (written ++ '\n' :: (spaces start ++ cs)) := by
    rw [Layout.place_cons_of_not_break hquote.2, List.tail_cons]
  refine step_line hquote.1 ?_
    ((hdispatch _ Layout.peek_zero_place).trans (quotedScalar_inBlock style (htail ▸ hread)))
    (fun p hp => ?_) (skipped_line hcs)
  · simp only [List.length_append, List.length_cons]
    omega
  · obtain ⟨hrequired, hsame, -⟩ := savedPlace_not_required hcolumn hp
    exact ⟨hrequired, by omega⟩

/-- **A literal block scalar is read back.** -/
theorem step_literal_line (hstart : start ≤ indent) (hallows : Writing.allowsLiteral text)
    (h : text ≠ []) (hcs : StartsToken cs) : ∃ line', line < line' ∧
    Step (inBlock (.place line column ('|' :: (Writing.indentHint text ++ Writing.chompHint text ++
        '\n' :: (Writing.literal (indent + 2) true (Writing.endLine text) ++
          (spaces start ++ cs))))) tokens (indent + 1) outer none keyAllowed)
      (atLine (.place line' start cs) (.scalar .literal (String.ofList text) :: tokens) (indent + 1)
        outer) := by
  obtain ⟨line', hline, hread⟩ := @Block.read?_written line (column + 1) text cs (indent + 1) start
    hallows h (by omega) hcs
  have htoken := (token_of_bar Layout.peek_zero_place rfl).trans (@blockScalar_inBlock _ tokens
    (indent + 1) line column outer keyAllowed text ('|' :: _) hread)
  refine ⟨line', hline, step_line (show '|' ≠ endMark by decide) ?_ htoken (by simp)
    (skipped_token hcs)⟩
  simp only [List.length_append, List.length_cons]
  omega

/-- **A text in lines of its own is read back.** -/
theorem step_text_line (hstart : start ≤ indent) (hcolumn : indent < column)
    (hcs : StartsToken cs) (s : String) : ∃ line', line < line' ∧
    Step (inBlock (.place line column
        (Writing.endLine (Writing.text (indent + indentStep) s) ++ (spaces start ++ cs))) tokens
        (indent + 1) outer none keyAllowed)
      (atLine (.place line' start cs) (.scalar (Writing.style s) s :: tokens) (indent + 1)
        outer) := by
  rw [Writing.endLine_text, Writing.style]
  obtain ⟨hform, hallows, hne, -⟩ | ⟨hform, hallows, hfeed⟩ | hform | ⟨hform, hallows, hfeed⟩ :=
    Writing.form_cases s
  · -- without quotes
    have hstep := @step_plain_line tokens line column indent start outer keyAllowed cs s.toList
      hstart hcolumn hallows hne hcs
    rw [String.ofList_toList] at hstep
    rw [hform, List.append_assoc]
    exact ⟨line + 1, Nat.lt_succ_self line, hstep⟩
  · -- in single quotes, which may go on over several lines
    have hread := @Quoted.single?_written line (column + 1) ('\n' :: (spaces start ++ cs))
      (indent + indentStep) s.toList (Nat.succ_pos _) (Nat.succ_pos _) hallows hfeed
      (show '\n' ≠ '\'' by decide)
    have hstep := step_quoted_line tokens outer keyAllowed (by decide)
      (fun s => token_of_quote) hcolumn hcs hread Layout.le_lineAfter
    rw [String.ofList_toList] at hstep
    rw [hform, List.cons_append, List.append_assoc]
    exact ⟨_, Nat.lt_succ_of_le Layout.le_lineAfter, hstep⟩
  · -- in double quotes, on one line
    have hread := @Quoted.double?_written line (column + 1) ('\n' :: (spaces start ++ cs))
      (Nat.succ_pos _) s.toList
    rw [← List.singleton_append, ← List.append_assoc] at hread
    have hstep := step_quoted_line tokens outer keyAllowed (by decide)
      (fun s => token_of_doubleQuote) hcolumn hcs hread (Nat.le_refl line)
    rw [String.ofList_toList, List.append_assoc] at hstep
    rw [hform, List.cons_append, List.append_assoc]
    exact ⟨_, Nat.lt_succ_self line, hstep⟩
  · -- as a block of lines, since there is a line feed
    obtain ⟨line', hline, hstep⟩ := @step_literal_line tokens line column indent start outer
      keyAllowed s.toList cs hstart hallows (List.ne_nil_of_mem hfeed) hcs
    rw [String.ofList_toList] at hstep
    rw [hform, List.cons_append, List.append_assoc, List.cons_append]
    exact ⟨line', hline, hstep⟩

end Scanner

end DrumMachine.Yaml
