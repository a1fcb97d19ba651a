import Reckoner.Help
import Reckoner.Session.Basic

/-!
# Requests to a session

What a host program asks of a session. Every answer is a text.
-/

set_option autoImplicit false

namespace Reckoner

/-- What a host program asks for. -/
inductive Request where
  | process (line : String)
  | help
  | environmentJson
  | environmentPairs
  | exampleJson
  | version
deriving DecidableEq

/-- The answer to a request, and the session after it. -/
def Session.answer (s : Session) : Request → String × Session
  | .process line =>
    let (outcome, s) := s.process line
    (outcome.text, s)
  | .help => (Help.text, s)
  | .environmentJson => (s.environment.jsonText, s)
  | .environmentPairs => (s.environment.pairsText, s)
  | .exampleJson => (exampleEnvironment.jsonText, s)
  | .version => (Help.version, s)

/-- The answers to some requests in order, and the session after the last. -/
def Session.answerAll (s : Session) : List Request → List String × Session
  | [] => ([], s)
  | r :: more =>
    let (text, s) := s.answer r
    let (texts, s) := s.answerAll more
    (text :: texts, s)

end Reckoner
