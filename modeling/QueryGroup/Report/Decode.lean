import QueryGroup.Document.Decoder
import QueryGroup.Report.Basic
import QueryGroup.Toml.Reader
set_option autoImplicit false

namespace QueryGroup

open Document

namespace MenuEntry

def fields : List (RecordField MenuEntry) := [
  .of "displayName" Decoder.string fun entry text => { entry with displayName := text },
  .of "substitutionText" Decoder.string fun entry text => { entry with substitutionText := text }]

def decoder : Decoder MenuEntry := Decoder.record "SubstitutionElement" fields {}

end MenuEntry

namespace Substitution

def fields : List (RecordField Substitution) := [
  .of "token" Decoder.string fun substitution text => { substitution with token := text },
  .of "description" Decoder.string fun substitution text =>
    { substitution with description := text },
  .of "multi" Decoder.bool fun substitution multi => { substitution with multi := multi },
  .of "substitutionElements" (Decoder.orDefault (Decoder.list MenuEntry.decoder))
    fun substitution entries => { substitution with entries := entries }]

def decoder : Decoder Substitution := Decoder.record "TextSubstitution" fields {}

end Substitution

namespace Server

def fields : List (RecordField Server) := [
  .of "columnExpressions" (Decoder.orDefault (Decoder.map Decoder.string))
    fun server expressions => { server with columnExpressions := expressions },
  .of "queries" (Decoder.orDefault (Decoder.map Decoder.any))
    fun server queries => { server with queries := queries }]

def decoder : Decoder Server := Decoder.record "ServerConfig" fields {}

end Server

namespace Client

def fields : List (RecordField Client) := [
  .of "textSubstitutions" (Decoder.orDefault (Decoder.list Substitution.decoder))
    fun client substitutions => { client with textSubstitutions := substitutions }]

def decoder : Decoder Client := Decoder.record "ClientConfig" fields {}

end Client

namespace Report

def fields : List (RecordField Report) := [
  .of "version" (Decoder.optional Decoder.string)
    fun report version => { report with version := version },
  .of "server" (Decoder.optional Server.decoder)
    fun report server => { report with server := server },
  .of "client" (Decoder.optional Client.decoder)
    fun report client => { report with client := client }]

def decoder : Decoder Report := Decoder.record "ReportQuery" fields {}

/-- The report that a JSON text describes, decoded while the text is read. -/
def ofText (text : String) : Except Fault Report := decoder.ofText text

def ofValue (value : Json.Value) : Except Fault Report := decoder.ofValue value

def ofToml? (text : String) : Option Report := do
  let tree ← Toml.treeOfText? text
  (decoder.ofToml tree).toOption

end Report

end QueryGroup
