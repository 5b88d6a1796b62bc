import StagedTests.Json.Decode

/-!
# Test cases

A record of what was tested, how many seconds it took and, if it failed, what it put out.
-/

namespace StagedTests

structure TestCase where
  name : String
  seconds : Binary64
  failure : Option String
  deriving DecidableEq

namespace TestCase

def isFailure (c : TestCase) : Bool := c.failure.isSome

def prepend (text : String) (c : TestCase) : TestCase :=
  { c with name := text ++ c.name }

def fields : Json.Fields TestCase :=
  (Json.Fields.nil TestCase.mk)
    |>.required "name" .string
    |>.required "duration_seconds" .real
    |>.optional "failure" .string

def decoder : Json.Decoder TestCase := fields.decoder "struct TestCase"

def toJson (c : TestCase) : Json :=
  Json.objectOf [("name", some (.string c.name)),
    ("duration_seconds", some (.number (.real c.seconds))), ("failure", c.failure.map .string)]

end TestCase

end StagedTests
