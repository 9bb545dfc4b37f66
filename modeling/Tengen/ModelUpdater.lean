import Tengen.FieldRegistry
import Tengen.PyText
/-!
# The model updater

`tengen/udm/model_updater.py`: the approved rows of the field registry become proposed fields of the UDM's models, the
new ones among them are rendered as a module, and the module is committed on a branch of its own; the rows are promoted
once it is.

What the renderer emits is a list of blocks; a declaration stands in the class whose line came last before it.
-/
namespace Tengen

/-- `_MODEL_REGISTRY`. -/
inductive UdmModel where
  | metadata | noun | user | process | file | registryEntry | resource | cloudContext | location | network
  | networkHttp | securityResult
  deriving DecidableEq, Repr

namespace UdmModel

def name : UdmModel → String
  | metadata => "Metadata"
  | noun => "Noun"
  | user => "User"
  | process => "Process"
  | file => "File"
  | registryEntry => "RegistryEntry"
  | resource => "Resource"
  | cloudContext => "CloudContext"
  | location => "Location"
  | network => "Network"
  | networkHttp => "NetworkHttp"
  | securityResult => "SecurityResult"

/-- `model_fields`. -/
def modelFields : UdmModel → List String
  | metadata => ["event_timestamp", "collected_timestamp", "ingested_timestamp", "event_type", "product_event_type",
      "product_name", "vendor_name", "product_version", "product_log_id", "log_type", "description",
      "url_back_to_product", "id"]
  | noun => ["hostname", "asset_id", "ip", "port", "mac", "administrative_domain", "namespace", "url", "domain", "email",
      "application", "platform", "platform_version", "user", "process", "file", "registry", "resource", "cloud",
      "location", "labels"]
  | user => ["userid", "user_display_name", "email_addresses", "windows_sid", "product_object_id", "group_identifiers",
      "attribute_roles"]
  | process => ["pid", "command_line", "product_specific_process_id", "parent_pid", "file"]
  | file => ["full_path", "file_type", "mime_type", "size", "md5", "sha1", "sha256"]
  | registryEntry => ["registry_key", "registry_value_name", "registry_value_data"]
  | resource => ["name", "resource_type", "resource_subtype", "product_object_id", "attribute_labels"]
  | cloudContext => ["environment", "project_id", "availability_zone"]
  | location => ["name", "city", "state", "country_or_region"]
  | network => ["ip_protocol", "direction", "application_protocol", "session_id", "sent_bytes", "received_bytes", "http"]
  | networkHttp => ["method", "user_agent", "response_code", "referral_url"]
  | securityResult => ["action", "category", "severity", "severity_details", "rule_name", "rule_id", "threat_name",
      "description", "summary", "confidence", "priority", "alert_state", "rule_labels"]

end UdmModel

/-- `_target_model`. -/
def targetModel (s : String) : UdmModel :=
  if startsWith "metadata." s then .metadata
  else if startsWith "network.http." s then .networkHttp
  else if startsWith "network." s then .network
  else if startsWith "security_result." s then .securityResult
  else if inStr ".user." s then .user
  else if inStr ".process." s then .process
  else if inStr ".file." s then .file
  else if inStr ".registry." s then .registryEntry
  else if inStr ".cloud." s then .cloudContext
  else if inStr ".resource." s then .resource
  else if inStr ".location." s then .location
  else .noun

/-! ## Names -/

/-- An underscore before the last capital of a run of them that a small letter follows. -/
def splitAcronyms : List Char → List Char
  | c :: u :: v :: l =>
    if c.isUpper && u.isUpper && v.isLower then c :: '_' :: splitAcronyms (u :: v :: l)
    else c :: splitAcronyms (u :: v :: l)
  | l => l

/-- An underscore between a small letter or a digit and a capital. -/
def splitWords : List Char → List Char
  | c :: u :: l =>
    if (c.isLower || c.isDigit) && u.isUpper then c :: '_' :: splitWords (u :: l) else c :: splitWords (u :: l)
  | l => l

/-- `re.sub("[..]+", "_", text)`: one underscore for each run. -/
def subRuns (p : Char → Bool) : Bool → List Char → List Char
  | _, [] => []
  | inRun, c :: l =>
    if p c then (if inRun then subRuns p true l else '_' :: subRuns p true l) else c :: subRuns p false l

/-- `strip("_")`. -/
def stripUnderscores (l : List Char) : List Char :=
  ((l.dropWhile (· = '_')).reverse.dropWhile (· = '_')).reverse

variable (py : PyText)

/-- `_identifier`. -/
def identifier (text : List Char) : String :=
  let words := subRuns (fun c => !c.isAlphanum) false (splitWords (splitAcronyms text))
  let name := subRuns (· = '_') false (py.lower (String.ofList (stripUnderscores words))).toList
  match name with
  | [] => "field"
  | c :: l => if py.isDigit c then String.ofList ('f' :: '_' :: c :: l) else String.ofList (c :: l)

/-- `_field_name`. -/
def fieldName (suggestedUdmField rawPath : String) : String :=
  if suggestedUdmField = "" then identifier py (dropBrackets (lastPart '.' rawPath.toList))
  else identifier py (lastPart '.' suggestedUdmField.toList)

/-- `_py_field`. -/
def pyField (name valueType : String) : String :=
  match valueType with
  | "int" => name ++ ": int | None = None"
  | "float" => name ++ ": float | None = None"
  | "bool" => name ++ ": bool = False"
  | "list" => name ++ ": list[Any] = Field(default_factory=list)"
  | "dict" => name ++ ": dict[str, Any] = Field(default_factory=dict)"
  | _ => name ++ ": str = \"\""

/-! ## Proposals -/

structure FieldProposal where
  fieldId : Nat
  sourceType : String
  rawPath : String
  suggestedUdmField : String
  valueType : String
  sampleValue : String
  occurrenceCount : Nat
  targetModel : UdmModel
  fieldName : String
  isNew : Bool
  deriving DecidableEq, Repr

namespace FieldProposal

def key (p : FieldProposal) : UdmModel × String := (p.targetModel, p.fieldName)

end FieldProposal

/-- The model and the name a row stands for. -/
def proposedKey (row : FieldRow) : UdmModel × String :=
  (targetModel row.suggestedUdmField, fieldName py row.suggestedUdmField row.rawPath)

/-- The model has the field. -/
def existing (key : UdmModel × String) : Bool := decide (key.2 ∈ key.1.modelFields)

def proposal (seen : List (UdmModel × String)) (row : FieldRow) : FieldProposal where
  fieldId := row.id
  sourceType := row.sourceType
  rawPath := row.rawPath
  suggestedUdmField := row.suggestedUdmField
  valueType := row.valueType
  sampleValue := row.sampleValue
  occurrenceCount := row.occurrenceCount
  targetModel := (proposedKey py row).1
  fieldName := (proposedKey py row).2
  isNew := !existing (proposedKey py row) && decide (proposedKey py row ∉ seen)

/-- The loop of `propose_from_registry`. -/
def proposeRows (statuses : List String) : List (UdmModel × String) → List FieldRow → List FieldProposal
  | _, [] => []
  | seen, row :: rows =>
    if row.status ∈ statuses then
      proposal py seen row ::
        proposeRows statuses (if existing (proposedKey py row) then seen else proposedKey py row :: seen) rows
    else proposeRows statuses seen rows

/-- `propose_from_registry`. -/
def proposeFromRegistry (order : FieldRegistry.Ordering) (R : FieldRegistry) (statuses : List String) :
    List FieldProposal :=
  proposeRows py statuses [] (R.listFields order none none 10000)

/-! ## The review table -/

def tableRow (p : FieldProposal) : String :=
  "| " ++ p.sourceType ++ " | \x60" ++ p.rawPath ++ "\x60 | \x60" ++ p.targetModel.name ++ "." ++ p.fieldName ++
    "\x60 | " ++ p.valueType ++ " | " ++ (if p.isNew then "yes" else "exists") ++ " | " ++
    toString p.occurrenceCount ++ " |"

/-- `render_proposal_table`. -/
def renderProposalTable (proposals : List FieldProposal) : String :=
  if proposals = [] then "_No field proposals._"
  else "\n".intercalate ("| Source | Raw path | → UDM model.field | Type | New? | Seen |" ::
    "|--------|----------|-------------------|------|------|------|" :: proposals.map tableRow)

/-- `render_pr_body`. -/
def renderPrBody (proposals : List FieldProposal) : String :=
  "## Proposed UDM model field additions\n\nThis PR was generated from " ++ toString proposals.length ++
    " approved field-registry candidate(s); " ++ toString (proposals.countP (·.isNew)) ++
    " introduce new model fields.\n\n" ++ renderProposalTable proposals ++
    "\n\nReview the scaffold in \x60tengen/models/udm_proposed_fields.py\x60, fold the fields into " ++
    "\x60tengen/models/udm.py\x60, then delete the scaffold.\n"

/-! ## The module -/

inductive Block where
  | header (generatedAt : String)
  | noNewFields
  | classLine (model : UdmModel)
  | classDoc (model : UdmModel)
  | comment (p : FieldProposal)
  | declaration (p : FieldProposal)

namespace Block

def text : Block → String
  | header generatedAt =>
    "\"\"\"AUTO-GENERATED proposed UDM field additions — DO NOT import in prod.\n\n" ++
      "Generated by tengen.udm.model_updater from approved field-registry rows.\n" ++
      "Each class lists fields proposed for the matching model in\n" ++
      "\x60\x60tengen/models/udm.py\x60\x60. Review, then fold the fields into the real\n" ++
      "models and delete this file. Generated at " ++ generatedAt ++ ".\n" ++
      "\"\"\"\n" ++
      "from __future__ import annotations\n\n" ++
      "from typing import Any\n\n" ++
      "from pydantic import BaseModel, Field\n"
  | noNewFields => "# No new fields to propose."
  | classLine model => "\n\nclass " ++ model.name ++ "Additions(BaseModel):"
  | classDoc model => "    \"\"\"Proposed additions to " ++ model.name ++ ".\"\"\"\n"
  | comment p => "    # from " ++ p.sourceType ++ " \x60" ++ p.rawPath ++ "\x60 (seen " ++ toString p.occurrenceCount ++
      "x, e.g. " ++ String.ofList (reprStr py p.sampleValue) ++ ")"
  | declaration p => "    " ++ pyField p.fieldName p.valueType

end Block

/-- The keys of `by_model`, sorted. -/
def newModels (new : List FieldProposal) : List UdmModel :=
  (new.map (·.targetModel)).dedup.mergeSort fun m m' => decide (m.name ≤ m'.name)

/-- The loop over a class's proposals: a name that has been emitted is passed over. -/
def emitted : List String → List FieldProposal → List FieldProposal
  | _, [] => []
  | names, p :: ps => if p.fieldName ∈ names then emitted names ps else p :: emitted (p.fieldName :: names) ps

def classBlocks (new : List FieldProposal) (model : UdmModel) : List Block :=
  .classLine model :: .classDoc model ::
    (emitted [] (new.filter fun p => decide (p.targetModel = model))).flatMap fun p => [.comment p, .declaration p]

def moduleBlocks (generatedAt : String) (proposals : List FieldProposal) : List Block :=
  let new := proposals.filter (·.isNew)
  if new = [] then [.header generatedAt, .noNewFields]
  else .header generatedAt :: (newModels new).flatMap (classBlocks new)

/-- `render_extension_module`. -/
def renderExtensionModule (generatedAt : String) (proposals : List FieldProposal) : String :=
  "\n".intercalate ((moduleBlocks generatedAt proposals).map (Block.text py)) ++ "\n"

/-- The fields declared in each class. -/
def declared : Option UdmModel → List Block → List (UdmModel × String)
  | _, [] => []
  | _, .classLine model :: blocks => declared (some model) blocks
  | some model, .declaration p :: blocks => (model, p.fieldName) :: declared (some model) blocks
  | model, _ :: blocks => declared model blocks

/-! ## The branch -/

/-- What one call meets: the time, which git commands fail and with what text, and whether the file cannot be written. -/
structure UpdateEnv where
  generatedAt : String
  branchStamp : String
  now : Nat → String
  gitFails : List String → Option String
  writeFails : Bool

structure UpdateResult where
  created : Bool
  branch : Option String
  modulePath : String
  proposals : List FieldProposal
  newFieldCount : Nat
  prBody : String
  error : Option String

/-- What a call leaves: its result, nothing where it raises, the registry, and the module it wrote. -/
structure UpdateOutcome where
  result : Option UpdateResult
  registry : FieldRegistry
  scaffold : Option String

/-- The commands run one after another, up to the first that fails. -/
def runGit (env : UpdateEnv) : List (List String) → Option String
  | [] => none
  | args :: rest =>
    match env.gitFails args with
    | some error => some error
    | none => runGit env rest

/-- The loop that marks. -/
def markPromoted (branch : String) : (Nat → String) → List FieldProposal → FieldRegistry → FieldRegistry
  | _, [], R => R
  | now, p :: ps, R => markPromoted branch (fun n => now (n + 1)) ps
      (R.setStatus (now 0) p.fieldId FieldStatus.promoted.value (some ("branch=" ++ branch))).2

variable (order : FieldRegistry.Ordering) (env : UpdateEnv) (R : FieldRegistry)

/-- `create_update_branch`. -/
def createUpdateBranch (branch : Option String) (modulePath target : String) (commit mark : Bool) : UpdateOutcome :=
  let proposals := proposeFromRegistry py order R [FieldStatus.approved.value]
  let newProposals := proposals.filter (·.isNew)
  let result : UpdateResult :=
    ⟨false, branch, modulePath, proposals, newProposals.length, renderPrBody proposals, none⟩
  if newProposals = [] then ⟨some { result with error := some "no approved new fields to promote" }, R, none⟩
  else
    let branch := if branch.getD "" = "" then "udm/field-additions-" ++ env.branchStamp else branch.getD ""
    let result := { result with branch := some branch }
    match runGit env [["checkout", "-b", branch]] with
    | some error => ⟨some { result with error := some error }, R, none⟩
    | none =>
      if env.writeFails then ⟨none, R, none⟩
      else
        let scaffold := renderExtensionModule py env.generatedAt proposals
        let commands := if commit then [["add", target],
          ["commit", "-m", "feat(udm): propose " ++ toString newProposals.length ++ " new model field(s)"]] else []
        match runGit env commands with
        | some error => ⟨some { result with error := some error }, R, some scaffold⟩
        | none => ⟨some { result with created := true }, if mark then markPromoted branch env.now proposals R else R,
            some scaffold⟩

end Tengen
