import Strata.Order.Table
import Strata.Text.Lowercase
import Strata.Wire.Decode

/-!
# Configuration

How filters are planned, and which attributes count for nothing when changes are looked at. The
names of these are a set without regard to case, kept in lowercase and sorted.
-/

namespace Strata

open Wire (Layout Decoded)

/-- Attributes that are never a relevant change. -/
structure ExcludedAttributes where
  names : List String
  deriving DecidableEq, Repr

namespace ExcludedAttributes

/-- The set of some names. -/
def ofList (names : List String) : ExcludedAttributes :=
  ⟨names.foldl (fun sorted name => insertName (Text.lowercase name) sorted) []⟩

/-- Whether an attribute is excluded. -/
def contains (excluded : ExcludedAttributes) (name : String) : Bool :=
  excluded.names.contains (Text.lowercase name)

/-- Whether nothing is excluded. -/
def isEmpty (excluded : ExcludedAttributes) : Bool := excluded.names.isEmpty

/-- The attributes that are excluded unless others are named: those that keep records of a row. -/
def standard : ExcludedAttributes := ofList [
  "createdby", "createdon", "modifiedby", "modifiedon", "modifiedonbehalfby", "overwritetime",
  "versionnumber", "solutionid", "supportingsolutionid", "componentstate", "componentidunique",
  "ismanaged", "introducedversion", "overriddencreatedon"]

/-- The set that stands at a place of a text as a list of names. -/
def decode (source : Source) : Decoded ExcludedAttributes :=
  ofList <$> Wire.list Wire.text source

/-- The set as a value. -/
def encode (excluded : ExcludedAttributes) : Json := .list .str excluded.names

end ExcludedAttributes

/-- How filters are planned. -/
structure Config where
  /-- Leave nothing to the store. -/
  forceInMemory : Bool := false
  /-- Put the most selective part of a conjunction first. -/
  rankBySelectivity : Bool := false
  excluded : ExcludedAttributes := .standard
  deriving DecidableEq, Repr

namespace Config

/-- The fields of a configuration. Every one may be left out. -/
def layout : Layout Config Config where
  title := "struct PlannerConfig"
  fields := ["forceInMemory", "rankBySelectivity", "excludedAttributes"]
  draft := {}
  enter draft field source :=
    match field with
    | "forceInMemory" => do return { draft with forceInMemory := ← Wire.boolean source }
    | "rankBySelectivity" => do return { draft with rankBySelectivity := ← Wire.boolean source }
    | _ => do return { draft with excluded := ← ExcludedAttributes.decode source }
  build draft := .ok draft

/-- The configuration that a text stands for. -/
def ofText (text : String) : Decoded Config := Wire.decodeText (layout.decode .streamed) text

/-- A configuration as a value. -/
def encode (config : Config) : Json := .obj [
  ("forceInMemory", .bool config.forceInMemory),
  ("rankBySelectivity", .bool config.rankBySelectivity),
  ("excludedAttributes", config.excluded.encode)]

end Config

end Strata
