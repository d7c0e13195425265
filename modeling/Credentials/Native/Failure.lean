import Credentials.Text.Outline
import Credentials.Text.Quoted

/-!
# Failures of the native side

Why the native library is not there, or why one of its calls gave nothing that can be used.
-/

namespace Credentials.Native

open Text (Outline)

/-- A failure of the native library or of a call to it. -/
inductive Failure where
  | unavailable
  | notLoaded (library reason : String)
  | missingSymbol (library symbol : String)
  | callFailed (call reason : String)
  /-- The call returned the text that stands for a failure. -/
  | sentinel (call : String)
  | emptyResult (call : String)
  | nullResult (call : String)
  | notText (call : String)
  /-- An argument with U+0000 cannot be passed. -/
  | innerNul (call : String)
  /-- The result is no value in wire form. -/
  | malformed (reason : String)
  deriving DecidableEq, Repr

namespace Failure

def message : Failure → String
  | unavailable => "Native library is not available"
  | notLoaded library reason => "Failed to load native library '" ++ library ++ "': " ++ reason
  | missingSymbol library symbol =>
    "Native library '" ++ library ++ "' is missing symbol '" ++ symbol ++ "'"
  | callFailed call reason => "Native call '" ++ call ++ "' failed: " ++ reason
  | sentinel call => "Native call '" ++ call ++ "' returned the failure sentinel"
  | emptyResult call => "Native call '" ++ call ++ "' returned an empty result"
  | nullResult call => "Native call '" ++ call ++ "' returned null"
  | notText call => "Native call '" ++ call ++ "' returned invalid UTF-8"
  | innerNul call => "Argument for native call '" ++ call ++ "' contains an interior NUL byte"
  | malformed reason => "Malformed native result: " ++ reason

/-- The constructor's word in diagnostics. -/
def label : Failure → String
  | unavailable => "Unavailable"
  | notLoaded _ _ => "LoadFailed"
  | missingSymbol _ _ => "MissingSymbol"
  | callFailed _ _ => "CallFailed"
  | sentinel _ => "Sentinel"
  | emptyResult _ => "EmptyResult"
  | nullResult _ => "NullResult"
  | notText _ => "InvalidUtf8"
  | innerNul _ => "InteriorNul"
  | malformed _ => "MalformedResult"

def textOutline (s : String) : Outline := .atom (Text.quoted s)

def outline (f : Failure) : Outline :=
  match f with
  | unavailable => .atom f.label
  | notLoaded library reason =>
    .record f.label [("library", textOutline library), ("message", textOutline reason)] false
  | missingSymbol library symbol =>
    .record f.label [("library", textOutline library), ("symbol", textOutline symbol)] false
  | callFailed call reason =>
    .record f.label [("call", textOutline call), ("message", textOutline reason)] false
  | sentinel s | emptyResult s | nullResult s | notText s | innerNul s | malformed s =>
    .tuple f.label [textOutline s]

/-- Whether the library itself is missing or unusable. -/
def isBindingFailure : Failure → Bool
  | unavailable | notLoaded _ _ | missingSymbol _ _ => true
  | _ => false

end Failure

end Credentials.Native
