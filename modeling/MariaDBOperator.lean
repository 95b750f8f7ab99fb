import MariaDBOperator.Meta.Conditions
import MariaDBOperator.JsonPatch.MergePatch
import MariaDBOperator.JsonPatch.RoundTrip
import MariaDBOperator.Api.Core
import MariaDBOperator.Api.MariaDB
import MariaDBOperator.Api.Defaults
import MariaDBOperator.Api.Backup
import MariaDBOperator.ApiServer.StatusStore
import MariaDBOperator.ApiServer.StatusJson
import MariaDBOperator.ApiServer.StoreLaws
import MariaDBOperator.Controller.Health
import MariaDBOperator.Controller.Poll
import MariaDBOperator.Controller.GaleraReconcile
import MariaDBOperator.Controller.StatusWrites
import MariaDBOperator.Builder.StatefulSet
import MariaDBOperator.Builder.PodTemplate
import MariaDBOperator.Controller.EventFilter
