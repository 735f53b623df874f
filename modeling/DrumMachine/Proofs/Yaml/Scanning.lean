import DrumMachine.Proofs.Yaml.Keys
import DrumMachine.Proofs.Yaml.Numbers

/-! # Tokens of written values

The scanner finds the tokens of a value in what is written for it (`Scanner.scans`), and the tokens
of a mapping in the text that holds only its entries (`Token.ofLayout?_entriesText`). -/

namespace DrumMachine.Yaml

namespace Value

mutual

/-- **The tokens of a value.** -/
def tokens : Value → List Token
  | number n => [.scalar .plain (toString n)]
  | text s => [.scalar (Writing.style s) s]
  | mapping [] => [.flowMappingStart, .flowMappingEnd]
  | mapping (entry :: entries) =>
    .mappingStart :: (entryTokens (entry :: entries) ++ [.blockEnd])

/-- The tokens of the entries of a mapping. -/
def entryTokens : List (String × Value) → List Token
  | [] => []
  | (name, value) :: rest =>
    .key :: .scalar (Writing.style name) name :: .value :: (tokens value ++ entryTokens rest)

end

end Value

namespace Scanner

variable {rest : Layout} {tokens : List Token} {margin line column indent start : Nat}
  {outer : List Nat} {keyAllowed : Bool} {cs : List Char}

/-! ## Keys with their marks -/

/-- **A scanner at the mark of a value**: reading it adds the key and the mark to the tokens, and
starts a mapping if there is none yet. -/
structure AtValue (indent margin : Nat) (tokens : List Token) (outer : List Nat) (name : String)
    (cs : List Char) (s : Scanner) : Prop where
  rest_eq : ∃ line column, s.rest = .place line column (':' :: cs)
  token_eq : ∃ line column keyAllowed, indent < column ∧ s.token = some
    (inBlock (.place line column cs)
      (.value :: .scalar (Writing.style name) name :: .key :: opening indent margin tokens)
      (indent + 1) (around indent margin outer) none keyAllowed)

/-- A key on the line of its value is read back. -/
theorem leads_bareKey {name : String} (hbare : Writing.isBare name) (hmargin : margin ≤ indent + 1)
    (hcs : isSeparator (cs.headD endMark)) : ∃ s, AtValue indent margin tokens outer name cs s ∧
    Leads (inBlock (.place line indent (Writing.text (indent + indentStep) name ++ ':' :: cs))
      tokens margin outer none true) s := by
  obtain ⟨hne, -, hfirst⟩ := Writing.startsToken_text (indent + indentStep) name (':' :: cs)
  have hlength := (Writing.text_of_isBare (indent + indentStep) hbare).2
  have htoken := @token_text_key tokens margin line indent (indent + indentStep) outer cs name hbare
    hmargin (Nat.succ_pos _) hcs
  have hstep := step_key hfirst hne (Nat.le_trans hlength (by decide)) hmargin htoken
  refine ⟨_, ⟨⟨_, _, rfl⟩, _, _, _, ?_, token_value_of_place hmargin hcs⟩, .single hstep⟩
  omega

/-- A key with a mark and lines of its own is read back. -/
theorem leads_markedKey (name : String) (hmargin : margin ≤ indent + 1)
    (hcs : isSeparator (cs.headD endMark)) : ∃ s, AtValue indent margin tokens outer name cs s ∧
    Leads (inBlock (.place line indent ('?' :: ' ' ::
      (Writing.endLine (Writing.text (indent + indentStep) name) ++ (spaces indent ++ ':' :: cs))))
      tokens margin outer none true) s := by
  have hcolon : StartsToken (':' :: cs) :=
    startsToken_of_range (by decide) (by decide) (by decide) cs
  obtain ⟨line', -, htext⟩ := @step_text_line (.key :: opening indent margin tokens) line
    (indent + 2) indent indent (around indent margin outer) true (':' :: cs) (Nat.le_refl indent)
    (by omega) hcolon name
  rw [atLine_of_le (Nat.le_refl _)] at htext
  refine ⟨_, ⟨⟨_, _, rfl⟩, _, _, _, Nat.lt_succ_self indent, token_value hcs⟩,
    .head ⟨?_, ?_, ?_⟩ (.single htext)⟩
  · rw [rest_inBlock, Layout.peek_zero_place]
    exact show '?' ≠ endMark by decide
  · have hspace : isSeparator ' ' := by decide
    rw [@token_key tokens margin line indent outer (' ' :: _) hmargin hspace, Option.bind_some]
    exact approach_sameLine 1 (Writing.startsToken_endLine_text _ name _) (by omega) (by simp)
  · simp only [rest_inBlock, Layout.length_place, List.length_cons]
    omega

/-- **A key is read back**, and the mark of the value behind it is found. -/
theorem leads_key (name : String) (hmargin : margin ≤ indent + 1)
    (hcs : isSeparator (cs.headD endMark)) : ∃ s, AtValue indent margin tokens outer name cs s ∧
    Leads (inBlock (.place line indent (Writing.key indent name ++ cs)) tokens margin outer none
      true) s := by
  rw [Writing.key]
  split
  next hbare =>
    rw [List.append_assoc]
    exact leads_bareKey hbare hmargin hcs
  next =>
    have hmarked := @leads_markedKey tokens margin line indent outer cs name hmargin hcs
    simpa only [List.append_assoc, List.cons_append, List.nil_append] using hmarked

/-! ## Values -/

/-- **A value is scanned**: from behind its mark, its tokens are found up to the next line. -/
def Scans (value : Value) : Prop :=
  ∀ ⦃indent start line column : Nat⦄ ⦃tokens : List Token⦄ ⦃outer : List Nat⦄ (keyAllowed : Bool)
    ⦃cs : List Char⦄, start ≤ indent → indent < column → StartsToken cs →
    ∃ s line', (inBlock (.place line column (value.after indent ++ (spaces start ++ cs))) tokens
        (indent + 1) outer none keyAllowed).approach = some s ∧
      s.rest.length ≤ (value.after indent ++ (spaces start ++ cs)).length + 1 ∧
      Leads s (atLine (.place line' start cs) (value.tokens.reverse ++ tokens) (indent + 1) outer)

/-- **The entries of a mapping are scanned** from the start of the first key on. -/
def ScansEntries (entries : List (String × Value)) : Prop :=
  ∀ ⦃indent start line margin : Nat⦄ ⦃tokens : List Token⦄ ⦃outer : List Nat⦄
    ⦃cs written : List Char⦄,
    start ≤ indent → margin ≤ indent + 1 → StartsToken cs → entries ≠ [] →
    Value.entriesText indent entries ++ (spaces start ++ cs) = spaces indent ++ written →
    ∃ line', Leads (inBlock (.place line indent written) tokens margin outer none true)
      (atLine (.place line' start cs)
        ((Value.entryTokens entries).reverse ++ opening indent margin tokens) (indent + 1)
        (around indent margin outer))

/-- A number is scanned. -/
theorem scans_number (n : Nat) : Scans (.number n) := by
  intro indent start line column tokens outer keyAllowed cs hstart hcolumn hcs
  obtain ⟨c, more, hdigits, -⟩ := exists_toString_eq_cons n
  have hne : (toString n).toList ≠ [] := hdigits ▸ List.cons_ne_nil c more
  have hallows := allowsPlain_toString n
  have hstep := @step_plain_line tokens line (column + 1) indent start outer keyAllowed cs
    (toString n).toList hstart (by omega) hallows hne hcs
  rw [String.ofList_toList] at hstep
  have hafter : Value.after indent (.number n) ++ (spaces start ++ cs) =
      ' ' :: ((toString n).toList ++ '\n' :: (spaces start ++ cs)) := by
    simp [Value.after]
  rw [hafter]
  refine ⟨_, line + 1, ?_, ?_, .single hstep⟩
  · exact approach_sameLine 1 (Writing.startsToken_plain hallows hne).1 (by omega) (by simp)
  · rw [rest_inBlock, Layout.length_place, List.length_cons]
    omega

/-- A text is scanned, whatever form it is written in. -/
theorem scans_text (text : String) : Scans (.text text) := by
  intro indent start line column tokens outer keyAllowed cs hstart hcolumn hcs
  obtain ⟨line', -, hstep⟩ := @step_text_line tokens line (column + 1) indent start outer
    keyAllowed cs hstart (by omega) hcs text
  refine ⟨_, line', ?_, ?_, .single hstep⟩
  · rw [Value.after]
    exact approach_sameLine 1 (Writing.startsToken_endLine_text _ text _) (by omega) (by simp)
  · rw [rest_inBlock, Layout.length_place, Value.after, List.cons_append, List.length_cons]
    omega

/-- A scanner in a flow collection that stands in no other one. -/
def inFlowCollection (rest : Layout) (tokens : List Token) (margin : Nat) (outer : List Nat)
    (place : Option KeyPlace) : Scanner :=
  { inBlock rest tokens margin outer none true with outerPlaces := [place] }

/-- What a scanner in a flow collection has still to read. -/
@[simp] theorem rest_inFlowCollection {place : Option KeyPlace} :
    (inFlowCollection rest tokens margin outer place).rest = rest := rfl

/-- An opening brace starts a mapping on one line. -/
theorem token_brace :
    (inBlock (.place line column ('\x7b' :: cs)) tokens margin outer none keyAllowed).token =
      some (inFlowCollection (.place line (column + 1) cs) (.flowMappingStart :: tokens) margin
        outer (savedPlace keyAllowed margin tokens.length line column)) := by
  have hstart : (inBlock (.place line column ('\x7b' :: cs)) tokens margin outer none
      keyAllowed).flowStart .flowMappingStart =
      some (inFlowCollection ((Layout.place line column ('\x7b' :: cs)).drop 1)
        (.flowMappingStart :: tokens) margin outer
        (savedPlace keyAllowed margin tokens.length line column)) := by
    rw [flowStart, savePlace_inBlock]
    rfl
  rw [token_of_brace Layout.peek_zero_place, hstart, drop_one_place (by decide)]

/-- A closing brace ends it. -/
theorem token_endBrace {place : Option KeyPlace} :
    (inFlowCollection (.place line column ('\x7d' :: cs)) tokens margin outer place).token =
      some (inBlock (.place line (column + 1) cs) (.flowMappingEnd :: tokens) margin outer place
        false) := by
  have hend : (inFlowCollection (.place line column ('\x7d' :: cs)) tokens margin outer
      place).flowEnd .flowMappingEnd =
      some (inBlock ((Layout.place line column ('\x7d' :: cs)).drop 1)
        (.flowMappingEnd :: tokens) margin outer place false) := rfl
  rw [token_of_endBrace Layout.peek_zero_place, hend, drop_one_place (by decide)]

/-- In a flow collection a token directly ahead is there already. -/
theorem approach_inFlowCollection {place : Option KeyPlace} (hcs : StartsToken cs)
    (hplace : ∀ p ∈ place, p.line = line ∧ column ≤ p.column + maxKeyLength) :
    (inFlowCollection (.place line column cs) tokens margin outer place).approach =
      some (inFlowCollection (.place line column cs) tokens margin outer place) := by
  have htoken : (inFlowCollection (.place line column cs) tokens margin outer place).toToken =
      inFlowCollection (.place line column cs) tokens margin outer place := by
    simp [toToken, inFlowCollection, inBlock, inFlow, skipped_token hcs]
  have hexpire := expire_sameLine hplace
  have hexpired :
      (inFlowCollection (.place line column cs) tokens margin outer place).expirePlaces =
      some (inFlowCollection (.place line column cs) tokens margin outer place) := by
    simp only [expirePlaces, inFlowCollection, inBlock, Layout.head_place, List.mapM_cons,
      List.mapM_nil, hexpire]
    rfl
  rw [approach, htoken, hexpired]
  rfl

/-- The empty mapping is scanned. -/
theorem scans_nil : Scans (.mapping []) := by
  intro indent start line column tokens outer keyAllowed cs hstart hcolumn hcs
  have hafter : Value.after indent (.mapping []) ++ (spaces start ++ cs) =
      ' ' :: '\x7b' :: '\x7d' :: '\n' :: (spaces start ++ cs) := by
    rw [Value.after]
    rfl
  have hbrace (cs : List Char) : StartsToken ('\x7b' :: cs) :=
    startsToken_of_range (by decide) (by decide) (by decide) cs
  have hendBrace (cs : List Char) : StartsToken ('\x7d' :: cs) :=
    startsToken_of_range (by decide) (by decide) (by decide) cs
  have hplace : ∀ p ∈ savedPlace keyAllowed (indent + 1) tokens.length line (column + 1),
      p.required = false ∧ p.line = line ∧ p.column = column + 1 :=
    fun p => savedPlace_not_required (Nat.lt_succ_of_lt hcolumn)
  -- one step over each of the two braces
  have hopen : Step (inBlock (.place line (column + 1) ('\x7b' :: '\x7d' :: '\n' ::
      (spaces start ++ cs))) tokens (indent + 1) outer none keyAllowed)
      (inFlowCollection (.place line (column + 2) ('\x7d' :: '\n' :: (spaces start ++ cs)))
        (.flowMappingStart :: tokens) (indent + 1) outer
        (savedPlace keyAllowed (indent + 1) tokens.length line (column + 1))) := by
    refine ⟨?_, ?_, ?_⟩
    · rw [rest_inBlock, Layout.peek_zero_place]
      exact show '\x7b' ≠ endMark by decide
    · rw [token_brace, Option.bind_some]
      refine approach_inFlowCollection (hendBrace _) fun p hp => ?_
      obtain ⟨-, hline, hcol⟩ := hplace p hp
      exact ⟨hline, by rw [maxKeyLength]; omega⟩
    · rw [rest_inFlowCollection, rest_inBlock, Layout.length_place, Layout.length_place]
      exact Nat.lt_succ_self _
  have hclose : Step (inFlowCollection (.place line (column + 2) ('\x7d' :: '\n' ::
      (spaces start ++ cs))) (.flowMappingStart :: tokens) (indent + 1) outer
        (savedPlace keyAllowed (indent + 1) tokens.length line (column + 1)))
      (atLine (.place (line + 1) start cs) (.flowMappingEnd :: .flowMappingStart :: tokens)
        (indent + 1) outer) := by
    refine ⟨?_, ?_, ?_⟩
    · rw [rest_inFlowCollection, Layout.peek_zero_place]
      exact show '\x7d' ≠ endMark by decide
    · rw [token_endBrace, Option.bind_some]
      refine approach_line (skipped_line hcs) fun p hp => ?_
      obtain ⟨hrequired, hline, -⟩ := hplace p hp
      exact ⟨hrequired, by omega⟩
    · rw [rest_atLine, rest_inFlowCollection, Layout.length_place, Layout.length_place,
        List.length_cons, List.length_cons, List.length_append]
      omega
  rw [hafter]
  refine ⟨_, line + 1, approach_sameLine 1 (hbrace _) (by omega) (by simp), ?_,
    .head hopen (.single hclose)⟩
  rw [rest_inBlock, Layout.length_place]
  exact Nat.le_succ_of_le (Nat.le_refl _)

/-- A key starts a token. -/
theorem startsToken_key (indent : Nat) (name : String) (cs : List Char) :
    StartsToken (Writing.key indent name ++ cs) := by
  rw [Writing.key]
  split
  · rw [List.append_assoc]
    exact (Writing.startsToken_text _ name _).2.1
  · exact startsToken_of_range (by decide) (by decide) (by decide) _

/-- The text of entries: the first key, its value and the other entries. -/
theorem entriesText_cons (indent : Nat) (name : String) (value : Value)
    (entries : List (String × Value)) (cs : List Char) :
    Value.entriesText indent ((name, value) :: entries) ++ cs =
      spaces indent ++ (Writing.key indent name ++ (value.after indent ++
        (Value.entriesText indent entries ++ cs))) := by
  simp only [Value.entriesText, List.append_assoc]

/-- A separator stands between the mark of a value and the value. -/
theorem isSeparator_after (indent : Nat) (value : Value) (cs : List Char) :
    isSeparator ((value.after indent ++ cs).headD endMark) := by
  have hspace : isSeparator ' ' := by decide
  have hbreak : isSeparator '\n' := by decide
  cases value with
  | number n => simpa [Value.after] using hspace
  | text text => simpa [Value.after] using hspace
  | mapping entries =>
    cases entries with
    | nil => simpa [Value.after] using hspace
    | cons entry entries => simpa [Value.after] using hbreak

/-- A mapping is scanned if its entries are. -/
theorem scans_mapping {entry : String × Value} {entries : List (String × Value)}
    (h : ScansEntries (entry :: entries)) : Scans (.mapping (entry :: entries)) := by
  intro indent start line column tokens outer keyAllowed cs hstart hcolumn hcs
  obtain ⟨name, value⟩ := entry
  have hwritten := entriesText_cons (indent + indentStep) name value entries (spaces start ++ cs)
  generalize hrest : Writing.key (indent + indentStep) name ++ (value.after (indent + indentStep) ++
    (Value.entriesText (indent + indentStep) entries ++ (spaces start ++ cs))) = written at hwritten
  have hstarts : StartsToken written := hrest ▸ startsToken_key _ name _
  obtain ⟨line', hleads⟩ := @h (indent + indentStep) start (line + 1) (indent + 1) tokens outer cs
    written (Nat.le_add_right_of_le hstart) (by omega) hcs (List.cons_ne_nil _ _) hwritten
  have hafter : Value.after indent (.mapping ((name, value) :: entries)) ++ (spaces start ++ cs) =
      '\n' :: (spaces (indent + indentStep) ++ written) := by
    rw [Value.after, List.cons_append, hwritten]
  have harrive := @approach_line _ tokens (indent + 1) _ _ outer none keyAllowed _
    (@skipped_line line column keyAllowed written (indent + indentStep) hstarts) (by simp)
  rw [atLine_of_le (by omega)] at harrive
  rw [hafter]
  refine ⟨_, line', harrive, ?_, ?_⟩
  · rw [rest_inBlock, Layout.length_place, List.length_cons, List.length_append]
    omega
  · -- the mapping that starts here ends at the next line, which starts left of it
    have hbeyond : indent + 1 ≤ indent + indentStep := by rw [indentStep]; omega
    rw [opening_of_le hbeyond, around_of_le hbeyond, atLine_of_lt (by omega)] at hleads
    simpa [Value.tokens] using hleads

/-- **An entry is scanned**, up to the next line. -/
theorem leads_entry {name : String} {value : Value} (hvalue : Scans value)
    (hstart : start ≤ indent) (hmargin : margin ≤ indent + 1) (hcs : StartsToken cs) :
    ∃ line', Leads (inBlock (.place line indent (Writing.key indent name ++
        (value.after indent ++ (spaces start ++ cs)))) tokens margin outer none true)
      (atLine (.place line' start cs) (value.tokens.reverse ++
          .value :: .scalar (Writing.style name) name :: .key :: opening indent margin tokens)
        (indent + 1) (around indent margin outer)) := by
  obtain ⟨s, ⟨⟨keyLine, keyColumn, hrest⟩, valueLine, valueColumn, keyAllowed, hcolumn, htoken⟩,
    hkey⟩ := @leads_key tokens margin line indent outer _ name hmargin
      (isSeparator_after indent value (spaces start ++ cs))
  obtain ⟨t, line', happroach, hlength, hleads⟩ := @hvalue indent start valueLine valueColumn
    (.value :: .scalar (Writing.style name) name :: .key :: opening indent margin tokens)
    (around indent margin outer) keyAllowed cs hstart hcolumn hcs
  -- from the mark of the value to the value is one more step
  have hstep : Step s t := by
    refine ⟨?_, ?_, ?_⟩
    · rw [hrest, Layout.peek_zero_place]
      exact show ':' ≠ endMark by decide
    · rw [htoken, Option.bind_some, happroach]
    · rw [hrest, Layout.length_place, List.length_cons]
      omega
  exact ⟨line', hkey.trans (.head hstep hleads)⟩

/-- One more entry is scanned if its value is. -/
theorem scansEntries_cons {name : String} {value : Value} {entries : List (String × Value)}
    (hvalue : Scans value) (hentries : ScansEntries entries) :
    ScansEntries ((name, value) :: entries) := by
  intro indent start line margin tokens outer cs written hstart hmargin hcs _ hwritten
  rw [entriesText_cons] at hwritten
  obtain rfl := List.append_cancel_left hwritten
  cases entries with
  | nil =>
    -- behind the last entry, the next line is one further out
    obtain ⟨line', hleads⟩ := @leads_entry tokens margin line indent start outer cs name value
      hvalue hstart hmargin hcs
    refine ⟨line', ?_⟩
    simpa [Value.entriesText, Value.entryTokens] using hleads
  | cons entry entries =>
    -- behind any other, the next line is the next entry of the mapping that is open by now
    obtain ⟨nextName, nextValue⟩ := entry
    have hnext := entriesText_cons indent nextName nextValue entries (spaces start ++ cs)
    obtain ⟨line', hleads⟩ := @leads_entry tokens margin line indent indent outer _ name value
      hvalue (Nat.le_refl indent) hmargin (startsToken_key indent nextName
        (nextValue.after indent ++ (Value.entriesText indent entries ++ (spaces start ++ cs))))
    rw [atLine_of_le (Nat.le_refl _)] at hleads
    obtain ⟨line'', hmore⟩ := @hentries indent start line' (indent + 1) (value.tokens.reverse ++
      .value :: .scalar (Writing.style name) name :: .key :: opening indent margin tokens)
      (around indent margin outer) cs _ hstart (Nat.le_refl _) hcs (List.cons_ne_nil _ _) hnext
    rw [opening_succ, around_succ] at hmore
    refine ⟨line'', ?_⟩
    rw [hnext]
    simpa [Value.entryTokens] using hleads.trans hmore

mutual

/-- **Every value is scanned.** -/
theorem scans : ∀ value : Value, Scans value
  | .number n => scans_number n
  | .text text => scans_text text
  | .mapping [] => scans_nil
  | .mapping (entry :: entries) => scans_mapping (scansEntries (entry :: entries))

/-- **All entries are scanned.** -/
theorem scansEntries : ∀ entries : List (String × Value), ScansEntries entries
  | [] => fun _ _ _ _ _ _ _ _ _ _ _ hne => absurd rfl hne
  | (_, value) :: entries => scansEntries_cons (scans value) (scansEntries entries)

end

end Scanner

/-- **The tokens of a written mapping** are found in its text. -/
theorem Token.ofLayout?_entriesText {entries : List (String × Value)} (h : entries ≠ []) :
    Token.ofLayout? (.place 0 0 (Value.entriesText 0 entries)) =
      some (.mappingStart :: (Value.entryTokens entries ++ [.blockEnd])) := by
  obtain ⟨⟨name, value⟩, more, rfl⟩ := List.exists_cons_of_ne_nil h
  have hstarts : StartsToken (Value.entriesText 0 ((name, value) :: more)) := by
    have htext := Scanner.entriesText_cons 0 name value more []
    rw [List.append_nil] at htext
    rw [htext]
    exact Scanner.startsToken_key 0 name _
  have hend : StartsToken [] := ⟨by decide, by decide, by decide, by decide⟩
  obtain ⟨line, hleads⟩ := @Scanner.scansEntries ((name, value) :: more) 0 0 0 0 [] [] []
    (Value.entriesText 0 ((name, value) :: more)) (Nat.le_refl 0) (Nat.zero_le 1) hend h
    (List.append_nil _)
  have hstart :=
    @Scanner.approach_sameLine [] 0 0 0 [] none true _ 0 hstarts (Nat.zero_le 1) (by simp)
  -- where the text ends, so does the mapping
  have hfinish (rest : Layout) (tokens : List Token) :
      (Scanner.inBlock rest tokens 1 [0] none true).finish = some (.blockEnd :: tokens).reverse :=
    rfl
  rw [Scanner.atLine_of_le (Nat.le_refl 1)] at hleads
  rw [Scanner.opening_of_le (Nat.le_refl 0), Scanner.around_of_le (Nat.le_refl 0)] at hleads
  have hrun := Scanner.run_of_leads hstart hleads Layout.peek_zero_place (Nat.lt_succ_self _)
  refine (hrun.trans (hfinish _ _)).trans ?_
  simp

end DrumMachine.Yaml
