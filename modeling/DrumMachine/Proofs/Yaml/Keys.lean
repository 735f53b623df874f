import DrumMachine.Proofs.Yaml.Tokens
import Mathlib.Data.String.Basic

/-! # Keys that are read back

A key of at most `maxBareKey` bytes without line breaks is written without a mark. Whatever its
style, it then takes up at most four characters for each byte (`Writing.text_of_isBare`), which a
scanner still accepts as a key; any other key has a mark. -/

namespace DrumMachine.Yaml

namespace Writing

/-! ## How long a bare key gets -/

/-- Characters beyond the first 128, and those beyond the basic plane, take up more bytes. -/
theorem le_utf8Size (c : Char) :
    1 ≤ c.utf8Size ∧ (0x7F < c.toNat → 2 ≤ c.utf8Size) ∧ (0xFFFF < c.toNat → 4 ≤ c.utf8Size) := by
  simp only [Char.utf8Size, UInt32.le_iff_toNat_le, Char.toNat]
  split_ifs with hone htwo hthree <;> simp at * <;> omega

/-- **In double quotes a character takes up at most four characters for each byte.** -/
theorem length_escape_le (c : Char) : (escape c).length ≤ 4 * c.utf8Size := by
  obtain ⟨hone, htwo, hfour⟩ := le_utf8Size c
  have hvalid : c.toNat.isValidChar := c.valid
  rw [Nat.isValidChar] at hvalid
  by_cases h : c ∈ shortEscaped
  · obtain ⟨e, hwritten, -⟩ := escape_of_mem h
    rw [hwritten]
    simp only [List.length_cons, List.length_nil]
    omega
  · have hlength {e : Char} {digits : Nat} (hdigits : 0 < digits) (hc : c.toNat < 16 ^ digits) :
        (['\\', e] ++ hex digits c.toNat).length = 2 + digits := by
      rw [List.length_append, (onto?_hex hdigits hc).1]
      rfl
    -- a character that needs more digits has more bytes
    rw [escape_of_notMem h]
    split_ifs with hprintable hlow hbasic
    · rw [List.length_singleton]
      omega
    · rw [hlength (by decide) (by omega)]
      omega
    · rw [hlength (by decide) (by omega)]
      omega
    · rw [hlength (by decide) (by omega)]
      omega

/-- Escapes make a text at most four times as long as its bytes. -/
theorem length_flatMap_escape_le (text : List Char) :
    (text.flatMap escape).length ≤ 4 * String.utf8Len text := by
  induction text with
  | nil => exact Nat.le_refl 0
  | cons c text ih =>
    have hc := length_escape_le c
    rw [List.flatMap_cons, List.length_append, String.utf8Len_cons]
    omega

/-- A text has no more characters than bytes. -/
theorem length_le_utf8Len (text : List Char) : text.length ≤ String.utf8Len text := by
  induction text with
  | nil => exact Nat.le_refl 0
  | cons c text ih =>
    have hpos : 0 < c.utf8Size := Char.utf8Size_pos c
    rw [List.length_cons, String.utf8Len_cons]
    omega

/-- Without line breaks, a text in single quotes stays on its line. -/
theorem single_of_not_break {text : List Char} (indent : Nat) (h : ∀ c ∈ text, ¬ isBreak c) :
    (∀ d ∈ single indent false text, ¬ isBreak d) ∧
      (single indent false text).length ≤ 2 * text.length + 1 := by
  have hquote : ¬ isBreak '\'' := by decide
  -- on the text; only a quote is written as two characters
  induction text with
  | nil => exact ⟨by simpa [single] using hquote, Nat.le_refl 1⟩
  | cons c text ih =>
    obtain ⟨hbreaks, hlength⟩ := ih fun d hd => h d (List.mem_cons_of_mem c hd)
    have hc := h c List.mem_cons_self
    rw [single, if_neg hc, if_neg Bool.false_ne_true, List.nil_append]
    constructor
    · intro d hd
      obtain hd | hd := List.mem_append.mp hd
      · split at hd
        · obtain rfl : d = '\'' := by simpa using hd
          exact hquote
        · rwa [List.mem_singleton.mp hd]
      · exact hbreaks d hd
    · rw [List.length_append, List.length_cons]
      split <;> simp only [List.length_cons, List.length_nil] <;> omega

/-- **A bare key stays on its line** and takes up at most four characters for each byte, apart from
its quotes. -/
theorem text_of_isBare {name : String} (indent : Nat) (h : isBare name) :
    (∀ c ∈ text indent name, ¬ isBreak c) ∧
      (text indent name).length ≤ 4 * maxBareKey + 2 := by
  rw [isBare, Bool.and_eq_true, decide_eq_true_eq, Bool.not_eq_true', List.any_eq_false] at h
  obtain ⟨hsize, hbreak⟩ := h
  have hbytes : String.utf8Len name.toList ≤ maxBareKey := by
    rwa [← String.utf8ByteSize_ofList, String.ofList_toList]
  have hlength := length_le_utf8Len name.toList
  rw [text]
  obtain ⟨hform, -⟩ | ⟨hform, -⟩ | hform | ⟨hform, -, hfeed⟩ := form_cases name
  · rw [hform]
    exact ⟨hbreak, by show name.toList.length ≤ _; omega⟩
  · obtain ⟨hbreaks, hsingle⟩ := single_of_not_break indent hbreak
    rw [hform]
    refine ⟨List.forall_mem_cons.mpr ⟨by decide, hbreaks⟩, ?_⟩
    rw [List.length_cons]
    omega
  · have hescaped := length_flatMap_escape_le name.toList
    have hquote : ¬ isBreak '\x22' := by decide
    rw [hform]
    refine ⟨fun c hc => ?_, ?_⟩
    · obtain rfl | ⟨d, -, hc⟩ | rfl :
          c = '\x22' ∨ (∃ d ∈ name.toList, c ∈ escape d) ∨ c = '\x22' := by
        simpa using hc
      · exact hquote
      · exact (isPrintable_of_mem_escape hc).2
      · exact hquote
    · simp only [List.length_append, List.length_cons, List.length_nil]
      omega
  · -- only a text with a line feed is written as a block, and a bare key has none
    exact absurd (by decide) (hbreak '\n' hfeed)

end Writing

namespace Scanner

variable {tokens : List Token} {margin line column indent : Nat} {outer : List Nat}
  {cs : List Char}

/-- **A step to the colon of a bare key.** -/
theorem step_key {written : List Char} {token : Token}
    (hfirst : (written ++ ':' :: cs).headD endMark ≠ endMark) (hwritten : written ≠ [])
    (hlength : written.length ≤ maxKeyLength) (hmargin : margin ≤ column + 1)
    (htoken : (inBlock (.place line column (written ++ ':' :: cs)) tokens margin outer none
      true).token = some (inBlock (.place line (column + written.length) (':' :: cs))
        (token :: tokens) margin outer (savedPlace true margin tokens.length line column) false)) :
    Step (inBlock (.place line column (written ++ ':' :: cs)) tokens margin outer none true)
      (inBlock (.place line (column + written.length) (':' :: cs)) (token :: tokens) margin outer
        (savedPlace true margin tokens.length line column) false) := by
  have hcolon : StartsToken (':' :: cs) :=
    startsToken_of_range (by decide) (by decide) (by decide) cs
  refine ⟨?_, ?_, ?_⟩
  · rwa [rest_inBlock, Layout.peek_zero_place]
  · rw [htoken, Option.bind_some]
    refine approach_sameLine 0 hcolon (by omega) fun p hp => ?_
    obtain rfl : _ = p := Option.some.inj hp
    exact ⟨rfl, Nat.add_le_add_left hlength column⟩
  · have hpos := List.length_pos_of_ne_nil hwritten
    rw [rest_inBlock, rest_inBlock, Layout.length_place, Layout.length_place, List.length_append]
    omega

/-- A quoted key is read back, if what is in the quotes is. -/
theorem token_quoted_key (tokens : List Token) (margin : Nat) (outer : List Nat) {quote : Char}
    {style : Style}
    {read? : Layout → Option (List Char × Layout)} {written text : List Char}
    (hquote : isBreak quote = false)
    (hdispatch : ∀ s : Scanner, s.rest.peek 0 = quote → s.token = s.quotedScalar style read?)
    (hread : read? (.place line (column + 1) (written ++ ':' :: cs)) =
      some (text, .place line (column + 1 + written.length) (':' :: cs))) :
    (inBlock (.place line column (quote :: written ++ ':' :: cs)) tokens margin outer none
      true).token = some (inBlock (.place line (column + (quote :: written).length) (':' :: cs))
        (.scalar style (String.ofList text) :: tokens) margin outer
        (savedPlace true margin tokens.length line column) false) := by
  have htail : (Layout.place line column (quote :: written ++ ':' :: cs)).tail =
      Layout.place line (column + 1) (written ++ ':' :: cs) := by
    rw [List.cons_append, Layout.place_cons_of_not_break hquote, List.tail_cons]
  rw [List.length_cons, Nat.add_comm written.length, ← Nat.add_assoc]
  exact (hdispatch _ Layout.peek_zero_place).trans (quotedScalar_inBlock style (htail ▸ hread))

/-- **The token of a bare key.** -/
theorem token_text_key {name : String} (hbare : Writing.isBare name) (hmargin : margin ≤ column + 1)
    (hindent : 0 < indent) (hcs : isSeparator (cs.headD endMark)) :
    (inBlock (.place line column (Writing.text indent name ++ ':' :: cs)) tokens margin outer none
      true).token =
      some (inBlock (.place line (column + (Writing.text indent name).length) (':' :: cs))
        (.scalar (Writing.style name) name :: tokens) margin outer
        (savedPlace true margin tokens.length line column) false) := by
  have hbreaks := (Writing.text_of_isBare indent hbare).1
  rw [Writing.text] at hbreaks ⊢
  rw [Writing.style]
  obtain ⟨hform, hallows, hne, -⟩ | ⟨hform, hallows, hfeed⟩ | hform | ⟨hform, -, hfeed⟩ :=
    Writing.form_cases name
  · have hread := @Plain.read?_key margin line column cs name.toList hallows hmargin hcs
    have htoken := (token_plain (s := inBlock (.place line column (name.toList ++ ':' :: cs)) tokens
      margin outer none true) rfl rfl hallows hne (show ':' ≠ '-' by decide)
      (show ':' ≠ '.' by decide)).trans (plainScalar_inBlock hread)
    rw [String.ofList_toList] at htoken
    rw [hform]
    exact htoken
  · -- what is in the quotes stays on the line, so the colon is where its length says
    rw [hform] at hbreaks ⊢
    have hinner := fun c hc => hbreaks c (List.mem_cons_of_mem '\'' hc)
    have hread := @Quoted.single?_written line (column + 1) (':' :: cs) indent name.toList hindent
      (Nat.succ_pos _) hallows hfeed (show ':' ≠ '\'' by decide)
    rw [Layout.lineAfter_of_not_break hinner, Layout.columnAfter_of_not_break hinner] at hread
    have htoken := token_quoted_key tokens margin outer (by decide) (fun s => token_of_quote) hread
    rw [String.ofList_toList] at htoken
    exact htoken
  · have hread := @Quoted.double?_written line (column + 1) (':' :: cs) (Nat.succ_pos _) name.toList
    have hlength : (name.toList.flatMap Writing.escape).length + 1 =
        (name.toList.flatMap Writing.escape ++ ['\x22']).length := by
      rw [List.length_append, List.length_singleton]
    rw [← List.singleton_append, ← List.append_assoc, Nat.add_assoc (column + 1), hlength] at hread
    have htoken := token_quoted_key tokens margin outer (by decide) (fun s => token_of_doubleQuote)
      hread
    rw [String.ofList_toList] at htoken
    rw [hform]
    exact htoken
  · rw [Writing.isBare, Bool.and_eq_true, Bool.not_eq_true', List.any_eq_false] at hbare
    exact absurd (by decide) (hbare.2 '\n' hfeed)

end Scanner

end DrumMachine.Yaml
