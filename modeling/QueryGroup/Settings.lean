import QueryGroup.Options
import QueryGroup.Toml.Reader
set_option autoImplicit false

namespace QueryGroup

open Document

structure Settings where
  compiler : Options := {}
deriving DecidableEq, Repr, Inhabited

namespace Settings

def fields : List (RecordField Settings) := [
  .of "compiler" Options.decoder fun settings options => { settings with compiler := options }]

def decoder : Decoder Settings := Decoder.record "Settings" fields {}

def ofToml? (text : String) : Option Settings := do
  let tree ← Toml.treeOfText? text
  (decoder.ofToml tree).toOption

end Settings

end QueryGroup
