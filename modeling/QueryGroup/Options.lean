import QueryGroup.Document.Decoder
import QueryGroup.Layout
import QueryGroup.Policy
set_option autoImplicit false

namespace QueryGroup

open Document

structure Options where
  /-- Key aliases that end so are left out of the layout. -/
  sortSuffix : String := Layout.defaultSortSuffix
  substitutions : SubstitutionsPolicy := .omitWhenEmpty
  positional : PositionalPolicy := .lenient
deriving DecidableEq, Repr, Inhabited

namespace Options

def withSortSuffix (options : Options) (suffix : String) : Options :=
  { options with sortSuffix := suffix }

def withSubstitutions (options : Options) (policy : SubstitutionsPolicy) : Options :=
  { options with substitutions := policy }

def withPositional (options : Options) (policy : PositionalPolicy) : Options :=
  { options with positional := policy }

def substitutionsPolicy : Decoder SubstitutionsPolicy := Decoder.variant SubstitutionsPolicy.named

def positionalPolicy : Decoder PositionalPolicy := Decoder.variant PositionalPolicy.named

def fields : List (RecordField Options) := [
  .of "sort_field_suffix" Decoder.string withSortSuffix,
  .of "text_substitutions" substitutionsPolicy withSubstitutions,
  .of "positional" positionalPolicy withPositional]

def decoder : Decoder Options := Decoder.record "CompilerSettings" fields {}

end Options

end QueryGroup
