import TripProposal.Files.Document
import TripProposal.Settings.Load
import TripProposal.Value.Literal
import TripProposal.Value.Written

/-!
# Settings files

A library for configurations that are stored as JSON. A settings file is an object whose fields
replace the defaults one by one. Numbers and flags may stand for texts; everything else has to be of
the type that the setting has, and a file may not name settings that do not exist.
-/

namespace TripProposal

/-- Why settings cannot be loaded. -/
inductive SettingsFault
  | document (fault : DocumentFault)
  | listAtTop
  | unknownKey (key : Text)
  | wrongType (key : Text)
deriving DecidableEq

/-- The text that a value stands for. -/
def settingText (key : Text) : Value → Except SettingsFault Text
  | .null | .list _ | .object _ => .error (.wrongType key)
  | v => .ok v.inText

/-- The items of a list. -/
def settingItems (key : Text) : Value → Except SettingsFault (List Value)
  | .list items => .ok items
  | _ => .error (.wrongType key)

/-- A pair of notices with one of its fields replaced. -/
def NoticePair.put (pair : NoticePair) (key : Text) (v : Value) :
    Except SettingsFault NoticePair :=
  if key = "first" then (settingText key v).map fun path => { pair with first := path }
  else if key = "second" then (settingText key v).map fun path => { pair with second := path }
  else .error (.unknownKey key)

/-- A pair of notices from its fields. -/
def NoticePair.ofValue (key : Text) : Value → Except SettingsFault NoticePair
  | .object fields => fields.foldlM (fun pair (key, v) => pair.put key v) {}
  | _ => .error (.wrongType key)

/-- Settings with one of them replaced. -/
def Settings.put (s : Settings) (key : Text) (v : Value) : Except SettingsFault Settings :=
  let text := settingText key v
  if key = "google_maps_api_key" then text.map fun t => { s with mapsKey := t }
  else if key = "api_endpoint" then text.map fun t => { s with apiEndpoint := t }
  else if key = "partner_domain" then
    text.map fun t => { s with partner := { s.partner with domain := t } }
  else if key = "partner_name" then
    text.map fun t => { s with partner := { s.partner with name := t } }
  else if key = "partner_id_param" then
    text.map fun t => { s with partner := { s.partner with idParam := t } }
  else if key = "campaign_id_param" then
    text.map fun t => { s with partner := { s.partner with campaignParam := t } }
  else if key = "medium_param" then
    text.map fun t => { s with partner := { s.partner with mediumParam := t } }
  else if key = "medium_value" then
    text.map fun t => { s with partner := { s.partner with mediumValue := t } }
  else if key = "notice_keywords" then do
    return { s with noticeKeywords := ← (← settingItems key v).mapM (settingText key) }
  else if key = "notice_pairs" then do
    return { s with noticePairs := ← (← settingItems key v).mapM (NoticePair.ofValue key) }
  else if key = "product_name" then text.map fun t => { s with productName := t }
  else if key = "watermark_url" then text.map fun t => { s with watermarkUrl := t }
  else .error (.unknownKey key)

/-- The defaults with the fields of a file in place, in the order of the file. -/
def Settings.ofFields (fields : Fields) : Except SettingsFault Settings :=
  fields.foldlM (fun s (key, v) => s.put key v) {}

/-- The settings that a document holds. -/
def Settings.ofDocument : Value → Except SettingsFault Settings
  | .object fields => Settings.ofFields fields
  | _ => .error .listAtTop

/-- The library for files that hold JSON. -/
def SettingsLibrary.json : SettingsLibrary SettingsFault Value Settings where
  read tree path := ((tree.textAt path).bind Value.ofYamlText).mapError .document
  merge := Settings.ofDocument
  put key text settings := settings.put key (.text text)
  toSettings _ settings := .ok settings

/-- The settings as the fields of a file. -/
def Settings.toFields (s : Settings) : Fields :=
  [("google_maps_api_key", .text s.mapsKey), ("api_endpoint", .text s.apiEndpoint),
   ("partner_domain", .text s.partner.domain), ("partner_name", .text s.partner.name),
   ("partner_id_param", .text s.partner.idParam),
   ("campaign_id_param", .text s.partner.campaignParam),
   ("medium_param", .text s.partner.mediumParam), ("medium_value", .text s.partner.mediumValue),
   ("notice_keywords", .list (s.noticeKeywords.map .text)),
   ("notice_pairs", .list (s.noticePairs.map fun pair =>
      .object [("first", .text pair.first), ("second", .text pair.second)])),
   ("product_name", .text s.productName), ("watermark_url", .text s.watermarkUrl)]

/-- The file that comes with the program. -/
def SettingsHost.packagedFile (host : SettingsHost) : Path × FileNode :=
  (host.packaged, .file (Text.ofList (Value.object Settings.packaged.toFields).compact))

/-- A host on which nothing but the program was installed. -/
def SettingsHost.fresh : SettingsHost where
  files := { entries := [SettingsHost.packagedFile {}] }

end TripProposal
