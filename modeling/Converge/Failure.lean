/-
  Converge.Failure
  ────────────────
  **WHAT CAN GO WRONG, AND WHAT IS SAID ABOUT IT.**

  A failure is a cause; its wording is in `Failure.message` alone.  `isAboutInput` tells the failures
  of declarations, manifests, registries and resources from those of the system underneath: only the
  first kind, and refusals of system calls, stop at the resource that meets them.
-/
import Converge.Machine.System
import Converge.Site
import Converge.State
import Converge.Text.Utf8
import Converge.Yaml.Fault

namespace Converge

open Converge.Text Converge.Machine

/-! ## §1. Causes. -/

/-- What is wrong with the structure of a manifest. -/
inductive ManifestFault where
  /-- The root is no mapping with the key for resources. -/
  | noResources
  /-- The resources are no list. -/
  | notAList
  /-- An item is no mapping. -/
  | itemNotMapping (index : Nat)
  /-- An item lacks a text that it must have. -/
  | itemWithout (index : Nat) (key : String)
  /-- Two items have one kind and title. -/
  | duplicate (kind title : String)
deriving DecidableEq, Repr

/-- What is wrong with the configuration. -/
inductive ConfigFault where
  /-- A source is declared and no site directory is known. -/
  | noSite (id source : String)
  /-- No kind of resource has the name; the known names follow. -/
  | unknownKind (name : String) (known : List String)
  /-- There is no manifest. -/
  | manifestMissing (path : String)
  /-- The manifest is no document. -/
  | manifestMalformed (path : String)
  /-- The manifest has the wrong structure. -/
  | misshapen (origin : String) (fault : ManifestFault)
deriving DecidableEq, Repr

/-- What is wrong with a declaration. -/
inductive DeclarationFault where
  /-- It is no mapping. -/
  | notMapping (kindName : String)
  /-- Fields with what is wrong with each. -/
  | badFields (errors : List (String × String))
  /-- The path is empty. -/
  | emptyPath
deriving DecidableEq, Repr

/-- What is wrong with one resource on the machine. -/
inductive ResourceFault where
  /-- Something other than a regular file is at the path; the state found so far, if there is one. -/
  | notAFile (path : String) (state : Option State)
  /-- A user or group is not known. -/
  | identity (cause : LookupFailure)
  /-- A content could not be read for comparing. -/
  | checksum (errno : Errno) (path : String)

/-- A closing tag in markup that closes nothing: what is said of it. -/
structure MarkupFault where
  /-- The tag as written; `none` for the tag that closes the last one opened. -/
  tag : Option String
  /-- Its position. -/
  position : Nat
deriving DecidableEq, Repr

/-- What can go wrong. -/
inductive Failure where
  /-- A declaration is refused. -/
  | declaration (id : String) (fault : DeclarationFault)
  /-- The configuration is refused. -/
  | config (fault : ConfigFault)
  /-- A kind of resource is registered twice. -/
  | duplicateKind (name : String)
  /-- A resource cannot be looked at or changed. -/
  | resource (id : String) (fault : ResourceFault)
  /-- A system call fails. -/
  | call (cause : CallFailure)
  /-- A user or group cannot be looked up. -/
  | lookup (cause : LookupFailure)
  /-- There is no site directory. -/
  | site (cause : Site.Failure)
  /-- A manifest is not text. -/
  | undecodable (refusal : Utf8Refusal)
  /-- A scalar of a document has no value. -/
  | scalar (fault : Yaml.ScalarFault)
  /-- A value names no existence. -/
  | notAnExistence (value : Value)
  /-- Text to print has a closing tag that closes nothing. -/
  | markup (fault : MarkupFault)

/-! ## §2. Wording. -/

/-- The name of a declaration as a whole among the names of its fields. -/
def wholeDeclaration : String := "<declaración>"

/-- What is said about a manifest's structure. -/
def ManifestFault.message : ManifestFault → String
  | .noResources => "se esperaba una clave 'resources' en la raíz"
  | .notAList => "'resources' debe ser una lista"
  | .itemNotMapping i => "resources[" ++ toString i ++ "] debe ser un mapping"
  | .itemWithout i key => "resources[" ++ toString i ++ "] sin '" ++ key ++ "'"
  | .duplicate kind title => "recurso duplicado " ++ kind ++ "[" ++ title ++ "]"

/-- What is said about the configuration. -/
def ConfigFault.message : ConfigFault → String
  | .noSite id source =>
    id ++ ": source=" ++ quote source
      ++ " requiere un directorio de sitio (--site-dir o FORJA_SITE_DIR)"
  | .unknownKind name known =>
    let listed := ", ".intercalate known
    "Tipo de recurso desconocido: " ++ quote name ++ " (disponibles: "
      ++ (if listed = "" then "(ninguno)" else listed) ++ ")"
  | .manifestMissing path => "Manifiesto no encontrado: " ++ path
  | .manifestMalformed path => "Error al parsear " ++ path
  | .misshapen origin fault => origin ++ ": " ++ fault.message

/-- The fields that a refused declaration is reported under, with what is said about each. -/
def DeclarationFault.fields : DeclarationFault → List (String × String)
  | .notMapping _ => [(wholeDeclaration, "se esperaba un mapping")]
  | .badFields errors => errors
  | .emptyPath => [("path", "vacío")]

/-- What is said about a declaration. -/
def DeclarationFault.message : DeclarationFault → String
  | .notMapping kindName => "la declaración debe ser un mapping, no " ++ kindName
  | .badFields errors =>
    "declaración inválida (" ++ "; ".intercalate (errors.map fun e => e.1 ++ ": " ++ e.2) ++ ")"
  | .emptyPath => "path no puede estar vacío"

/-- What is said about a resource. -/
def ResourceFault.message : ResourceFault → String
  | .notAFile path _ => path ++ " existe, pero no es un archivo"
  | .identity cause => cause.message
  | .checksum errno path =>
    "no se pudo calcular el checksum: " ++ (CallFailure.system errno path).message

/-- What is said about bytes that are no text. -/
def undecodableMessage (r : Utf8Refusal) : String :=
  let place :=
    if r.length = 1 then
      "byte 0x" ++ String.ofList (hexDigits 2 r.byte.toNat) ++ " in position " ++ toString r.start
    else
      "bytes in position " ++ toString r.start ++ "-" ++ toString (r.start + r.length - 1)
  let reason := match r.reason with
    | .invalidStart => "invalid start byte"
    | .invalidContinuation => "invalid continuation byte"
    | .unexpectedEnd => "unexpected end of data"
  "'utf-8' codec can't decode " ++ place ++ ": " ++ reason

/-- What is said about a closing tag. -/
def MarkupFault.message (f : MarkupFault) : String :=
  match f.tag with
  | none => "closing tag '[/]' at position " ++ toString f.position ++ " has nothing to close"
  | some tag =>
    "closing tag '" ++ tag ++ "' at position " ++ toString f.position ++ " doesn't match any open tag"

namespace Failure

/-- What is said about a failure. -/
def message : Failure → String
  | .declaration id fault => id ++ ": " ++ fault.message
  | .config fault => fault.message
  | .duplicateKind name => "Tipo de recurso ya registrado: " ++ name
  | .resource id fault => id ++ ": " ++ fault.message
  | .call cause => cause.message
  | .lookup cause => cause.message
  | .site cause => cause.message
  | .undecodable refusal => undecodableMessage refusal
  | .scalar fault => fault.message
  | .notAnExistence value => value.literal ++ " is not a valid ResourceState"
  | .markup fault => fault.message

/-- Whether the failure is one of declarations, manifests, registries or resources. -/
def isAboutInput : Failure → Bool
  | .declaration .. => true
  | .config _ => true
  | .duplicateKind _ => true
  | .resource .. => true
  | _ => false

/-- Whether the failure is a refusal of the system. -/
def isRefusal : Failure → Bool
  | .call (.system ..) => true
  | _ => false

/-- The state that was found before the failure. -/
def state? : Failure → Option State
  | .resource _ (.notAFile _ state) => state
  | _ => none

/-- Names the resource in what is said about a failure, unless it is named already. -/
def messageFor (id : String) : Failure → String
  | .resource own fault => own ++ ": " ++ fault.message
  | f => id ++ ": " ++ f.message

end Failure

/-- The existence that a value names. -/
def Existence.ofValue (v : Value) : Except Failure Existence :=
  match v with
  | .text s =>
    match Existence.ofName? s with
    | some e => .ok e
    | none => .error (.notAnExistence v)
  | _ => .error (.notAnExistence v)

end Converge
