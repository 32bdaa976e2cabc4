import TrueMark.Ecma.JsonParse
import TrueMark.Qr.Tamper
import TrueMark.Qr.Codes
import TrueMark.UserApp.Soundness
import TrueMark.UserApp.Exclusion
import TrueMark.UserApp.Latest
import TrueMark.UserApp.Agreement
import TrueMark.UserApp.QueriedId
import TrueMark.UserApp.ScannedId
import TrueMark.UserApp.Reconnection
import TrueMark.UserApp.Outage
import TrueMark.UserApp.Explained
import TrueMark.UserApp.Protocol
import TrueMark.UserApp.Settling
import TrueMark.Dashboard.Registration
import TrueMark.Dashboard.Adds
import TrueMark.Dashboard.Loading
import TrueMark.Dashboard.Ids
import TrueMark.Dashboard.Displayed
import TrueMark.Dashboard.Validity
import TrueMark.Dashboard.Settling
import TrueMark.LookUp
import TrueMark.Contract.Provenance
import TrueMark.Contract.Uniqueness
import TrueMark.Contract.Accounts
import TrueMark.System.Verdicts
