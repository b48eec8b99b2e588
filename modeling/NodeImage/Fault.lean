import NodeImage.Data.Value
import NodeImage.Files.Tree
import NodeImage.Schema.Check
import NodeImage.Yaml.Construct
import NodeImage.Text.Utf8

/-!
# Faults

Everything that can go wrong, as one type. Each fault has a kind (the name of the error it is
reported as), a text, and possibly a cause: the failure it wraps, such as the file error
behind an unreadable catalog. A fault that wraps a cause includes the cause's own text in
its text; `Fault.messageWith` gives the text with any other text in that place, so that the
text can be shown with the cause left out.

Faults of the image service also carry the values they concern (`Fault.attrs`): the cloud
name of an unknown cloud, the region of a failed SIG resolution, the path of a catalog.
-/

namespace NodeImage

/-- A failure wrapped by a fault. -/
inductive Cause where
  /-- A file could not be read. -/
  | file (e : Files.FsError)
  /-- A text was not a YAML document. -/
  | yaml
  /-- A document did not have the shape of its model. -/
  | issues (list : List Schema.Issue)
deriving Inhabited

/-- The kind of error a cause is reported as. -/
def Cause.kind : Cause → String
  | .file e => e.kind
  | .yaml => "YAMLError"
  | .issues _ => "ValidationError"

/-- What can go wrong. -/
inductive Fault where
  /-- A value that names no distribution. -/
  | notADistro (given : Value)
  /-- A request value that does not have the shape of its model. -/
  | invalid (issues : List Schema.Issue)
  /-- A catalog file that could not be read. -/
  | catalogUnreadable (path : String) (cause : Files.FsError)
  /-- A catalog file that is not YAML. -/
  | catalogNotYaml (path : String)
  /-- A catalog that does not have the shape of a catalog; `legacy` tells which one. -/
  | catalogInvalid (legacy : Bool) (path : String) (issues : List Schema.Issue)
  /-- An inventory file that could not be read or is not YAML. -/
  | inventoryUnreadable (path : String) (cause : Cause)
  /-- An inventory file whose contents have the wrong shape. -/
  | inventoryMalformed (message : String) (path : String)
  /-- A cloud the legacy catalog does not know. -/
  | unknownCloud (name : String)
  /-- A region whose SIG images cannot be resolved. -/
  | sigResolution (message : String) (region : Value)
  /-- A distribution no catalog has an image for. -/
  | imageNotFound (distro : String) (region : String)
  /-- An inventory that was never filled. -/
  | cacheNotInitialized (inventory : String)
  /-- A second attempt to fill the inventories. -/
  | cacheAlreadyInitialized (message : String)
  /-- A toggles file that could not be loaded. -/
  | togglesUnloadable (path : String) (cause : Cause)
  /-- A template that does not exist. -/
  | templateMissing (name : String)
  /-- A template that failed to render, with the kind and text of the failure. -/
  | templateFailed (name : String) (causeKind : String) (causeText : String)
  /-- A template that exists but cannot be loaded, raised as the loader raised it: its file
  cannot be read, its bytes are not UTF-8, or it does not compile. It keeps the kind and text of
  the error and, for a compile error, its cause. -/
  | templateUnloadable (kind : String) (message : String) (cause : Option String)
  /-- Bytes that are not UTF-8. -/
  | undecodable (e : Text.Utf8.DecodeError)
  /-- A value used as a key that cannot be one. -/
  | unhashable (typeName : String)
  /-- A value whose length was asked for and that has none. -/
  | noLength (typeName : String)
  /-- A value asked for an attribute it does not have. -/
  | noAttribute (typeName : String) (member : String)
  /-- A file operation that failed. -/
  | fileError (e : Files.FsError)
  /-- A YAML scalar that names no value. -/
  | yamlValue (e : Yaml.LoadFault)
  /-- A text that is not one YAML document. -/
  | yamlMalformed
  /-- An error that nothing handles, with its kind and text. -/
  | uncaught (kind : String) (message : String)
  /-- A request that cannot be read. -/
  | badRequest (message : String)
deriving Inhabited

namespace Fault

/-- The kind of error a fault is reported as. -/
def kind : Fault → String
  | notADistro _ => "ValueError"
  | invalid _ => "ValidationError"
  | catalogUnreadable _ _ | catalogNotYaml _ | catalogInvalid _ _ _ | inventoryUnreadable _ _
  | inventoryMalformed _ _ => "CatalogError"
  | unknownCloud _ => "UnknownCloudError"
  | sigResolution _ _ => "SigResolutionError"
  | imageNotFound _ _ => "ImageNotFoundError"
  | cacheNotInitialized _ => "CacheNotInitializedError"
  | cacheAlreadyInitialized _ => "CacheAlreadyInitializedError"
  | togglesUnloadable _ _ => "NodeBakerError"
  | templateMissing _ | templateFailed _ _ _ => "TemplateRenderError"
  | templateUnloadable kind _ _ => kind
  | undecodable _ => "UnicodeDecodeError"
  | unhashable _ | noLength _ => "TypeError"
  | noAttribute _ _ => "AttributeError"
  | fileError e => e.kind
  | yamlValue e => match e with
    | .unknownBoolean _ => "KeyError"
    | .emptyNumber => "IndexError"
    | .unmatchedTimestamp => "AttributeError"
    | .placeTooLarge => "OverflowError"
    | _ => "ValueError"
  | yamlMalformed => "YAMLError"
  | uncaught kind _ => kind
  | badRequest _ => "DriverError"

/-- The failure a fault wraps, with its kind. -/
def cause : Fault → Option Cause
  | catalogUnreadable _ e => some (.file e)
  | catalogNotYaml _ => some .yaml
  | catalogInvalid _ _ issues => some (.issues issues)
  | inventoryUnreadable _ c => some c
  | togglesUnloadable _ c => some c
  | _ => none

/-- The kind of the failure a fault wraps, when it wraps one. -/
def causeKind : Fault → Option String
  | templateMissing _ => some "TemplateNotFound"
  | templateFailed _ k _ => some k
  | templateUnloadable _ _ c => c
  | f => f.cause.map Cause.kind

/-- The text of a fault, with `inner` standing for the own text of the failure it wraps. -/
def messageWith (inner : String) : Fault → String
  | notADistro given => given.repr ++ " is not a valid Distro"
  | invalid _ => "validation failed"
  | catalogUnreadable path _ => "cannot read catalog file " ++ path ++ ": " ++ inner
  | catalogNotYaml path => "invalid YAML in catalog file " ++ path ++ ": " ++ inner
  | catalogInvalid legacy path _ =>
    "invalid " ++ (if legacy then "legacy" else "SIG") ++ " image catalog " ++ path ++ ": " ++ inner
  | inventoryUnreadable path _ => "cannot read VHD inventory " ++ path ++ ": " ++ inner
  | inventoryMalformed message _ => message
  | unknownCloud name => "don't have settings for cloud " ++ name
  | sigResolution message _ => message
  | imageNotFound distro region =>
    "can't find image for distro " ++ distro ++ (if region.isEmpty then "" else " in region " ++ region)
  | cacheNotInitialized inventory => "cached versions from " ++ inventory ++ " are not available"
  | cacheAlreadyInitialized message => message
  | togglesUnloadable path _ => "cannot load toggles from " ++ path ++ ": " ++ inner
  | templateMissing name => "Missing template: " ++ name
  | templateFailed name _ _ => "Failed to render " ++ name ++ ": " ++ inner
  | templateUnloadable _ message _ => message
  | undecodable e => e.message
  | unhashable t => "unhashable type: '" ++ t ++ "'"
  | noLength t => "object of type '" ++ t ++ "' has no len()"
  | noAttribute t a => "'" ++ t ++ "' object has no attribute '" ++ a ++ "'"
  | fileError e => e.message
  | yamlValue e => match e with
    | .badValue m => m
    | .unknownBoolean w => (Value.str w).repr
    | .emptyNumber => "string index out of range"
    | .unmatchedTimestamp => "'NoneType' object has no attribute 'groupdict'"
    | .placeTooLarge => "int too large to convert to float"
    | .codePointTooLarge => "chr() arg not in range(0x110000)"
    | .malformed => ""
  | yamlMalformed => ""
  | uncaught _ message => message
  | badRequest message => message

/-- The own text of the failure a fault wraps. YAML and validation failures are only ever
shown by kind, so their texts are left empty. -/
def causeText : Fault → String
  | templateFailed _ _ text => text
  | f => match f.cause with
    | some (.file e) => e.message
    | _ => ""

/-- The full text of a fault. -/
def message (f : Fault) : String := f.messageWith f.causeText

/-- The values a fault concerns, by name. -/
def attrs : Fault → Option (List (String × Value))
  | catalogUnreadable path _ | catalogNotYaml path | catalogInvalid _ path _
  | inventoryUnreadable path _ | inventoryMalformed _ path => some [("path", .str path)]
  | unknownCloud name => some [("cloud_name", .str name)]
  | sigResolution _ region => some [("region", match region with
      | .null => .null
      | v => .str v.shown)]
  | imageNotFound distro region => some [("distro", .str distro), ("region", .str region)]
  | cacheNotInitialized inventory => some [("inventory", .str inventory)]
  | templateMissing name | templateFailed name _ _ => some [("template", .str name)]
  | _ => none

end Fault

end NodeImage
