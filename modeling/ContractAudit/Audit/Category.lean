/-!
# The catalog

Everything that is said about a kind of finding whatever the contract: its key, its title, what it
means, how to mend it and where to read on.

* `Category` -- the kinds of findings; `info` is for contracts in which nothing was found;
* `Category.key`, `title`, `description`, `remediation`, `references` -- the entries;
* `Category.ofKey?` -- the category with a given key.
-/

namespace ContractAudit

/-- The kinds of findings. -/
inductive Category where
  | reentrancy
  | uncheckedCall
  | overflow
  | accessControl
  | info
  deriving DecidableEq, Repr

namespace Category

/-- All categories. -/
def all : List Category := [reentrancy, uncheckedCall, overflow, accessControl, info]

/-- The key of a category. -/
def key : Category → String
  | reentrancy => "reentrancy"
  | uncheckedCall => "unchecked-call"
  | overflow => "overflow"
  | accessControl => "access-control"
  | info => "info"

/-- The category with the given key. -/
def ofKey? (s : String) : Option Category :=
  all.find? fun c => c.key == s

/-- The title of a category. -/
def title : Category → String
  | reentrancy => "Reentrancy Vulnerability"
  | uncheckedCall => "Unchecked External Call"
  | overflow => "Potential Integer Overflow/Underflow"
  | accessControl => "Missing Access Control"
  | info => "No Critical Issues Detected"

/-- What a finding of a category means. -/
def description : Category → String
  | reentrancy =>
    "An external call is made before contract state is updated. The callee can "
      ++ "re-enter the function while the old state is still visible and repeat the "
      ++ "operation, for example withdrawing the same balance several times."
  | uncheckedCall =>
    "A low-level call's return value is not checked. If the call fails, execution "
      ++ "continues silently and the contract's accounting no longer matches what "
      ++ "actually happened."
  | overflow =>
    "The contract targets a compiler older than 0.8.0, which does not check "
      ++ "arithmetic for overflow or underflow. Arithmetic on balances or supply can wrap "
      ++ "around silently."
  | accessControl =>
    "A publicly callable function changes state or accepts ether without any access "
      ++ "restriction. Any account can invoke it."
  | info =>
    "Basic static analysis did not detect common vulnerability patterns. However, a "
      ++ "full security audit should include manual review and advanced analysis."

/-- How a finding of a category is mended. -/
def remediation : Category → String
  | reentrancy =>
    "Follow the checks-effects-interactions pattern: update state before the "
      ++ "external call, and add OpenZeppelin's ReentrancyGuard.\n\n"
      ++ "uint256 amount = balances[msg.sender];\n"
      ++ "balances[msg.sender] = 0;\n"
      ++ "(bool success, ) = msg.sender.call\x7bvalue: amount\x7d(\"\");\n"
      ++ "require(success, \"Transfer failed\");"
  | uncheckedCall =>
    "Capture and check the success flag of every low-level call.\n\n"
      ++ "(bool success, ) = recipient.call\x7bvalue: amount\x7d(\"\");\n"
      ++ "require(success, \"Call failed\");"
  | overflow =>
    "Upgrade to Solidity 0.8 or later, or use OpenZeppelin's SafeMath for every "
      ++ "arithmetic operation.\n\n"
      ++ "pragma solidity ^0.8.0;"
  | accessControl =>
    "Restrict the function with an access-control modifier such as onlyOwner or "
      ++ "onlyRole, or check the caller explicitly.\n\n"
      ++ "function mint(address to, uint256 amount) public onlyOwner \x7b\n"
      ++ "    ...\n"
      ++ "\x7d"
  | info =>
    "Consider professional security audit for production contracts."

/-- Where to read on about a category. -/
def references : Category → List String
  | reentrancy =>
    ["https://swcregistry.io/docs/SWC-107",
     "https://docs.openzeppelin.com/contracts/4.x/api/security#ReentrancyGuard"]
  | uncheckedCall => ["https://swcregistry.io/docs/SWC-104"]
  | overflow => ["https://swcregistry.io/docs/SWC-101"]
  | accessControl => ["https://swcregistry.io/docs/SWC-105"]
  | info => []

end Category

end ContractAudit
