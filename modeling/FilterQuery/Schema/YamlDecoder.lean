import FilterQuery.Schema
import FilterQuery.Yaml.Decoder

/-!
# Schemas from YAML
-/
namespace FilterQuery.Schema

open Yaml

def yamlRecord (depth : Nat) : Yaml.Record Draft Schema where
  toRecordForm := form
  set d name p n :=
    if name = "objectType" then do
      return { d with objectType := some (← Decoder.string depth p n) }
    else do
      return { d with attributes := ofEntries (← Decoder.entries (.variant typeOf) depth p n) }

def yamlDecoder : Yaml.Decoder Schema := Yaml.Record.decoder yamlRecord

end FilterQuery.Schema
