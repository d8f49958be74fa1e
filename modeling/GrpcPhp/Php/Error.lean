import GrpcPhp.Php.Value

/-!
# Exceptions

The errors of the extension (`error.rs`): a `GrpcError` becomes a plain PHP
`Exception` carrying its display text, while validation, sequencing and
closed-resource errors are thrown with the SPL class ext-grpc uses for them.
-/

namespace GrpcPhp.Php

/-- The PHP classes an exception of the extension can have. -/
inductive ExceptionClass where
  | exception
  | invalidArgumentException
  | logicException
  | runtimeException
deriving DecidableEq, Repr

/-- A PHP exception: its class, its message and its code. -/
structure PhpException where
  cls : ExceptionClass
  message : String
  code : Int
deriving DecidableEq, Repr

/-- `PhpException::default`: a plain exception with code 0. -/
def PhpException.default (message : String) : PhpException := ⟨.exception, message, 0⟩

/-- `invalid_argument`: argument and validation errors. -/
def invalidArgument (message : String) : PhpException := ⟨.invalidArgumentException, message, 1⟩

/-- `logic_exception`: batch sequencing errors, with a `grpc_call_error` code. -/
def logicException (message : String) (callError : Int) : PhpException :=
  ⟨.logicException, message, callError⟩

/-- `runtime_exception`: use of a closed resource. -/
def runtimeException (message : String) : PhpException := ⟨.runtimeException, message, 0⟩

/-- `GrpcError`; the sources of wrapped errors are their display texts. -/
inductive GrpcError where
  | runtimeInit (source : String)
  | transport (source : String)
  | status (code : Int) (message : String)
  | invalidArg (text : String)
  | invalidUri (text : String)
  | callbackFailed (text : String)
deriving DecidableEq, Repr

/-- The display text of an error. -/
def GrpcError.text : GrpcError → String
  | .runtimeInit e => "failed to initialize tokio runtime: " ++ e
  | .transport e => "transport error: " ++ e
  | .status code message => "gRPC status " ++ toString code ++ ": " ++ message
  | .invalidArg e => "invalid argument: " ++ e
  | .invalidUri e => "invalid URI: " ++ e
  | .callbackFailed e => "callback failed: " ++ e

/-- `PhpException::from`. -/
def GrpcError.toPhp (e : GrpcError) : PhpException := ⟨.exception, e.text, 0⟩

end GrpcPhp.Php
