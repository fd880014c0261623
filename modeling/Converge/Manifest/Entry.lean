/-
  Converge.Manifest.Entry
  ───────────────────────
  **THE ENTRIES OF A MANIFEST.**

  A manifest is nothing at all, or a mapping whose `resources` are a list of mappings, each with a
  kind and a title that are texts and not empty; no two have both in common.  Everything else in an
  item is its declaration.  The first item at fault is the one reported.
-/
import Converge.Failure

namespace Converge

/-- An entry of a manifest. -/
structure ManifestEntry where
  /-- The kind of resource. -/
  kind : String
  /-- The title. -/
  title : String
  /-- The declaration. -/
  declaration : Mapping := []

namespace Manifest

/-- The key of the list of resources. -/
def resourcesKey : String := "resources"

/-- The key of an item's kind. -/
def kindKey : String := "type"

/-- The key of an item's title. -/
def titleKey : String := "title"

/-- What a manifest is called that has no path. -/
def unnamedOrigin : String := "<manifiesto>"

/-- A text under a key that is not empty. -/
def requiredText? (key : String) (pairs : Mapping) : Option String :=
  match Mapping.find? key pairs with
  | some (.text s) => if s = "" then none else some s
  | _ => none

/-- Reads one item; `seen` holds the entries before it. -/
def readItem (seen : List ManifestEntry) (index : Nat) (item : Value) :
    Except ManifestFault ManifestEntry :=
  match item with
  | .mapping pairs =>
    match requiredText? kindKey pairs with
    | none => .error (.itemWithout index kindKey)
    | some kind =>
      match requiredText? titleKey pairs with
      | none => .error (.itemWithout index titleKey)
      | some title =>
        if seen.any fun e => e.kind == kind && e.title == title then
          .error (.duplicate kind title)
        else .ok ⟨kind, title, Mapping.without [kindKey, titleKey] pairs⟩
  | _ => .error (.itemNotMapping index)

/-- Reads the items from the one with number `seen.length` on. -/
def readItems (seen : List ManifestEntry) : List Value → Except ManifestFault (List ManifestEntry)
  | [] => .ok seen
  | item :: rest =>
    match readItem seen seen.length item with
    | .error fault => .error fault
    | .ok entry => readItems (seen ++ [entry]) rest

/-- Reads the entries of a document. -/
def readEntries (data : Value) : Except ManifestFault (List ManifestEntry) :=
  match data with
  | .null => .ok []
  | .mapping pairs =>
    match Mapping.find? resourcesKey pairs with
    | none => .error .noResources
    | some (.list items) => readItems [] items
    | some v => if v.isEmpty then .ok [] else .error .notAList
  | _ => .error .noResources

/-- Reads the entries of a document; failures name where it comes from. -/
def parseEntries (data : Value) (origin : String) : Except Failure (List ManifestEntry) :=
  (readEntries data).mapError fun fault => .config (.misshapen origin fault)

/-- Items are counted through the entries before them. -/
theorem readItems_append {seen entries : List ManifestEntry} {items more : List Value}
    (h : readItems seen items = .ok entries) :
    readItems seen (items ++ more) = readItems entries more := by
  induction items generalizing seen with
  | nil => cases h; rfl
  | cons item rest ih =>
    simp only [readItems, List.cons_append] at h ⊢
    cases hi : readItem seen seen.length item with
    | error e => simp [hi] at h
    | ok entry =>
      simp only [hi] at h ⊢
      exact ih h

end Manifest

end Converge
