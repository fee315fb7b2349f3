/-!
# Sample contracts

Contracts that come with the program, each with the risk level that it is meant to show.

* `SampleContract` -- a contract with its name and description;
* `SampleContract.all` -- the library;
* `SampleContract.find?` -- the contract with a given id.
-/

namespace ContractAudit

/-- A contract of the library. -/
structure SampleContract where
  id : String
  name : String
  description : String
  riskLevel : String
  code : String

namespace SampleContract

/-- A vault that pays out before it updates its balances. -/
def vault : SampleContract where
  id := "reentrancy-vault"
  name := "Reentrancy-prone Vault"
  description :=
    "A vulnerable vault contract with reentrancy issues and missing access controls."
  riskLevel := "high"
  code := "\n".intercalate [
    "pragma solidity ^0.8.0;",
    "",
    "contract VulnerableVault \x7b",
    "    mapping(address => uint256) public balances;",
    "",
    "    function deposit() public payable \x7b",
    "        balances[msg.sender] += msg.value;",
    "    \x7d",
    "",
    "    function withdraw() public \x7b",
    "        uint256 amount = balances[msg.sender];",
    "        require(amount > 0, \"No balance\");",
    "",
    "        // Vulnerable: External call before state update",
    "        (bool success, ) = msg.sender.call\x7bvalue: amount\x7d(\"\");",
    "        require(success, \"Transfer failed\");",
    "",
    "        // State update happens after external call - reentrancy risk!",
    "        balances[msg.sender] = 0;",
    "    \x7d",
    "",
    "    function getBalance() public view returns (uint256) \x7b",
    "        return address(this).balance;",
    "    \x7d",
    "\x7d"]

/-- A token that anyone can mint, for a compiler without checked arithmetic. -/
def adminToken : SampleContract where
  id := "centralized-admin"
  name := "Centralized Admin Token"
  description :=
    "A token contract with centralized admin control and potential integer overflow "
      ++ "risks."
  riskLevel := "medium"
  code := "\n".intercalate [
    "pragma solidity ^0.7.6;",
    "",
    "contract CentralizedToken \x7b",
    "    mapping(address => uint256) public balances;",
    "    address public admin;",
    "    uint256 public totalSupply;",
    "",
    "    constructor() \x7b",
    "        admin = msg.sender;",
    "        totalSupply = 1000000 * 10**18;",
    "        balances[admin] = totalSupply;",
    "    \x7d",
    "",
    "    function transfer(address to, uint256 amount) public \x7b",
    "        require(balances[msg.sender] >= amount, \"Insufficient balance\");",
    "",
    "        // Potential overflow in older Solidity versions",
    "        balances[msg.sender] -= amount;",
    "        balances[to] += amount;",
    "    \x7d",
    "",
    "    function mint(address to, uint256 amount) public \x7b",
    "        // Missing access control - anyone can mint!",
    "        balances[to] += amount;",
    "        totalSupply += amount;",
    "    \x7d",
    "",
    "    function setAdmin(address newAdmin) public \x7b",
    "        // No access control check",
    "        admin = newAdmin;",
    "    \x7d",
    "\x7d"]

/-- A contract that ignores whether its calls succeed. -/
def uncheckedCalls : SampleContract where
  id := "unchecked-calls"
  name := "Unchecked External Calls"
  description :=
    "Contract with unchecked external calls and missing return value validation."
  riskLevel := "high"
  code := "\n".intercalate [
    "pragma solidity ^0.8.0;",
    "",
    "contract UncheckedCalls \x7b",
    "    mapping(address => bool) public authorized;",
    "    uint256 public funds;",
    "",
    "    function addAuthorized(address addr) public \x7b",
    "        authorized[addr] = true;",
    "    \x7d",
    "",
    "    function sendFunds(address recipient, uint256 amount) public \x7b",
    "        require(authorized[msg.sender], \"Not authorized\");",
    "        require(funds >= amount, \"Insufficient funds\");",
    "",
    "        funds -= amount;",
    "",
    "        // Vulnerable: Unchecked external call return value",
    "        recipient.call\x7bvalue: amount\x7d(\"\");",
    "",
    "        // Execution continues even if call fails",
    "    \x7d",
    "",
    "    function batchTransfer(address[] memory recipients, uint256[] memory amounts) public \x7b",
    "        require(recipients.length == amounts.length, \"Arrays mismatch\");",
    "",
    "        for (uint256 i = 0; i < recipients.length; i++) \x7b",
    "            // No return value check",
    "            recipients[i].call\x7bvalue: amounts[i]\x7d(\"\");",
    "        \x7d",
    "    \x7d",
    "",
    "    receive() external payable \x7b",
    "        funds += msg.value;",
    "    \x7d",
    "\x7d"]

/-- The library, in the order in which it is listed. -/
def all : List SampleContract :=
  [vault, adminToken, uncheckedCalls]

/-- The contract with the given id. -/
def find? (id : String) : Option SampleContract :=
  all.find? fun c => c.id == id

end SampleContract

end ContractAudit
