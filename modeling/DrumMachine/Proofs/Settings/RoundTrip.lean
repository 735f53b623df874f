import DrumMachine.Installed
import DrumMachine.Proofs.Catalog
import DrumMachine.Proofs.Yaml.Records

/-! # Settings that are read back

Settings are written with all their fields, each under its own name, whether they are defaults or
not. A node that shows these fields is read as the settings that they came from: each field is found
once, none is left to its default, and drums make the catalog that they came from, since this is in
order already (`Settings.ofNode_of_shows`). So whatever reader undoes the writer, settings that are
written as YAML are read back unchanged (`Settings.parse_toYaml`). -/

namespace DrumMachine

open Serial (Reader Value Writer)

variable {reader : Reader}

namespace AcousticSettings

/-! ## Acoustic settings -/

/-- Nodes that show texts under some names are read as these texts. -/
theorem mapM_text_of_showsAll {entries : List (String × String)}
    {nodes : List (String × reader.Node)}
    (h : reader.ShowsAll (entries.map fun entry => (entry.1, .text entry.2)) nodes) :
    nodes.mapM (fun field => do return (field.1, ← reader.text field.2)) =
      (.ok entries : Except String _) := by
  induction entries generalizing nodes with
  | nil =>
    obtain rfl : nodes = [] := h
    rfl
  | cons entry entries ih =>
    obtain ⟨node, more, rfl, hnode, hmore⟩ := h
    rw [List.mapM_cons, ih hmore, show reader.text node = .ok entry.2 from hnode]
    rfl

/-- **Drums are read back**, also if there are none. -/
theorem drumsOfNode_of_shows {drums : Catalog String} {node : reader.Node}
    (h : reader.Shows (.mapping (drums.entries.map fun entry => (entry.1, .text entry.2))) node) :
    drumsOfNode reader node = .ok drums := by
  obtain ⟨nodes, hnodes, hshows⟩ := h
  have hentries : Catalog.ofList drums.entries = drums :=
    Catalog.ext (Catalog.entries_ofList drums.increasing)
  have hfiles := mapM_text_of_showsAll hshows
  calc
    drumsOfNode reader node =
        (.ok drums.entries : Except String _) >>= fun entries => .ok (.ofList entries) := by
      rw [drumsOfNode, hnodes, ← hfiles]
      rfl
    _ = .ok drums := congrArg Except.ok hentries

/-- **Acoustic settings are read back.** -/
theorem ofNode_of_shows {settings : AcousticSettings} {node : reader.Node}
    (h : reader.Shows (.record settings.fields) node) : ofNode reader node = .ok settings := by
  obtain ⟨nodes, hnodes, samplesDir, _, rfl, hsamplesDir, drums, _, rfl, hdrums, bufferMs, _, rfl,
    hbufferMs, rfl⟩ := h
  have hsamplesDir : reader.text samplesDir = .ok settings.samplesDir := hsamplesDir
  have hbufferMs : reader.number bufferMs = .ok settings.bufferMs := hbufferMs
  rw [ofNode, hnodes]
  simp [bind, Except.bind, pure, Except.pure, Except.map, Serial.Given.fields, Known.add,
    Reader.once, hsamplesDir, drumsOfNode_of_shows hdrums, hbufferMs, Known.complete]

end AcousticSettings

namespace Settings

/-! ## Settings -/

/-- **Settings are read back** from a node that shows all of their fields. -/
theorem ofNode_of_shows {settings : Settings} {node : reader.Node}
    (h : reader.Shows (.record settings.fields) node) : ofNode reader node = .ok settings := by
  obtain ⟨nodes, hnodes, bpm, _, rfl, hbpm, kit, _, rfl, hkit, acoustic, _, rfl, hacoustic,
    rfl⟩ := h
  have hbpm : reader.number bpm = .ok settings.bpm := hbpm
  have hkit : reader.text kit = .ok settings.kit := hkit
  rw [ofNode, hnodes]
  simp [bind, Except.bind, pure, Except.pure, Except.map, Serial.Given.fields, Known.add,
    Reader.once, hbpm, hkit, AcousticSettings.ofNode_of_shows hacoustic, Known.complete]

/-- Texts under some names are not deep. -/
theorem entriesDepth_texts (entries : List (String × String)) :
    Value.entriesDepth (entries.map fun entry => (entry.1, .text entry.2)) = 0 := by
  induction entries with
  | nil => rfl
  | cons entry entries ih => simp [Value.entriesDepth, Value.depth, ih]

/-- Three levels are enough for settings: their own, the acoustic settings and the drums. -/
theorem depth_fields (settings : Settings) : (Value.record settings.fields).depth = 3 := by
  simp [fields, AcousticSettings.fields, Value.depth, Value.entriesDepth, entriesDepth_texts]

/-- **Settings that are written as YAML are read back unchanged**, by a reader that undoes the
writer: all settings can be written, and of what is written nothing is lost, be it a default or not.
-/
theorem parse_toYaml {writer : Writer} {readers : SettingsFormat → Reader}
    (h : (readers .yaml).Undoes writer) (settings : Settings) :
    ∃ text, toYaml writer settings = .ok text ∧ parse readers .yaml text = .ok settings := by
  have hdepth : (Value.record settings.fields).depth ≤ Serial.depthLimit := by
    rw [depth_fields]
    decide
  have hfields : settings.fields ≠ [] := List.cons_ne_nil _ _
  obtain ⟨text, htext⟩ := h.exists_text hfields hdepth
  obtain ⟨node, hread, hshows⟩ := h.shows_of_text hfields hdepth htext
  have hsettings : ofText (readers .yaml) text = .ok settings := by
    rw [ofText, hread]
    exact ofNode_of_shows hshows
  exact ⟨text, by rw [toYaml, htext], by rw [parse, hsettings]⟩

/-- A kit whose name means nothing without quotes, a directory over two lines, and no drums. -/
theorem parse_toYaml_no_drums :
    ∃ text, toYaml Yaml.writer ⟨0, "null", ⟨" # samples:\n", .ofList [], 4294967295⟩⟩ = .ok text ∧
      parse Installed.readers .yaml text =
        .ok ⟨0, "null", ⟨" # samples:\n", .ofList [], 4294967295⟩⟩ :=
  parse_toYaml Yaml.reader_undoes_writer _

end Settings

end DrumMachine
